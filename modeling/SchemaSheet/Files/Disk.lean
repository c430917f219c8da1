import SchemaSheet.CallFault
import SchemaSheet.Files.Tree

/-!
# Disks

A file tree with the calls that read and write it.  What stands in the tree
decides whether a path can be opened; beyond that every call may fail for a
reason of its own.  A file is emptied when it is opened for writing, and a call
that fails later may have written a part of the text.
-/

namespace SchemaSheet

def OpenFault.callFault (path : Path) (reason : OpenFault) : CallFault :=
  ⟨reason.kind, reason.message path, reason.refused⟩

/-- What the calls on files come to: why they fail, if they do. -/
structure FileCalls where
  reading : Path → Option CallFault
  /-- The opening of a file for writing. -/
  opening : Path → Option CallFault
  /-- The writing of a text.  A call that fails has written so many octets. -/
  writing : Path → Option (Nat × CallFault)
  /-- The closing of a file that has been written.  A call that fails leaves so
  many octets in it. -/
  closing : Path → Option (Nat × CallFault)

namespace FileCalls

/-- No call fails. -/
def sound : FileCalls :=
  ⟨fun _ => none, fun _ => none, fun _ => none, fun _ => none⟩

/-- The octets of a text that are written to an open file, and why they are not
all. -/
def put (calls : FileCalls) (path : Path) (text : Text) :
    List UInt8 × Option CallFault :=
  match Utf8.encode .strict text with
  | .error reason => ([], some reason.callFault)
  | .ok octets =>
      match calls.writing path with
      | none => (octets, none)
      | some (count, reason) => (octets.take count, some reason)

/-- The octets of a text that a file holds once it is closed, and why they are
not all. -/
def fill (calls : FileCalls) (path : Path) (text : Text) :
    List UInt8 × Option CallFault :=
  match calls.closing path with
  | none => calls.put path text
  | some (count, reason) => ((calls.put path text).1.take count, some reason)

end FileCalls

structure Disk where
  files : FileTree
  calls : FileCalls

namespace Disk

def read (disk : Disk) (path : Path) : Except CallFault (List UInt8) :=
  match disk.files.read path with
  | .error reason => .error (reason.callFault path)
  | .ok octets =>
      match disk.calls.reading path with
      | some reason => .error reason
      | none => .ok octets

/-- The tree after a text is written to a file, and the failure if there is
one. -/
def write (disk : Disk) (path : Path) (text : Text) :
    FileTree × Option CallFault :=
  let (octets, fault) := disk.calls.fill path text
  match disk.files.write path octets with
  | .error reason => (disk.files, some (reason.callFault path))
  | .ok files =>
      match disk.calls.opening path with
      | some reason => (disk.files, some reason)
      | none => (files, fault)

end Disk

end SchemaSheet
