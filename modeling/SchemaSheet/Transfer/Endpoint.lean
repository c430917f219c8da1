import SchemaSheet.Event
import SchemaSheet.Files.Disk
import SchemaSheet.Text.Utf8
import SchemaSheet.Transfer.Device

/-!
# Sources and sinks

Where a text comes from and where a listing goes to.  Fetching and delivering
either succeed or give a failure; what they change is part of their result.
-/

namespace SchemaSheet

/-- What sources and sinks share. -/
structure Desk extends Disk where
  clipboard : Clipboard

inductive Source where
  /-- A text in memory, if there is one, or a failure in its place. -/
  | memory (name : Text) (text : Option Text) (fault : Option Fault)
  /-- The standard input: the octets that have not been read, or why it cannot
  be read. -/
  | standardInput (octets : List UInt8) (fault : Option CallFault)
  | file (path : Path)
  | clipboard

inductive Sink where
  /-- A list of the texts delivered so far, or a failure to take more. -/
  | memory (name : Text) (delivered : List Text) (fault : Option Fault)
  /-- The standard output: the text that it has taken so far. -/
  | standardOutput (received : Text) (calls : StreamCalls)
  | file (path : Path)
  | clipboard

namespace Endpoint

def standardInputName : Text := "stdin"

def standardOutputName : Text := "stdout"

def fileName : Text := "file"

def clipboardName : Text := "clipboard"

def unavailableMessage : Text := "clipboard access is unavailable"

end Endpoint

namespace Source

open Endpoint

def name : Source → Text
  | memory name _ _ => name
  | standardInput _ _ => standardInputName
  | file _ => fileName
  | clipboard => clipboardName

def inputFault (reason : Text) : Fault :=
  .inputRead ("cannot read standard input: " ++ reason)
    (some standardInputName)

def fileFault (path : Path) (reason : Text) : Fault :=
  .inputRead ("cannot read file " ++ path.spelling ++ ": " ++ reason)
    (some path.spelling)

def clipboardFault (reason : Text) : Fault :=
  .inputRead ("cannot read clipboard: " ++ reason) (some clipboardName)

def fetchFile (disk : Disk) (path : Path) : Except Fault Text :=
  match disk.read path with
  | .error reason => .error (reason.fault (fileFault path))
  | .ok octets =>
      match readOctets octets with
      | .error reason => .error (fileFault path reason.message)
      | .ok text => .ok text

/-- The text on a clipboard.  It is closed in any case, and a failure of that
hides every other. -/
def fetchClipboard (found : Clipboard) : Except Fault Text :=
  match found.calls.opening with
  | some _ => .error (clipboardFault unavailableMessage)
  | none =>
      match found.calls.closing with
      | some reason => .error reason.escaped
      | none =>
          match found.calls.reading with
          | some reason => .error (clipboardFault reason.message)
          | none => .ok found.content

/-- The text that the source gives, or a failure, and the source afterwards.
The standard input gives its text only once. -/
def fetch (source : Source) (desk : Desk) :
    Except Fault (Option Text) × Source :=
  match source with
  | memory _ text fault =>
      (match fault with
        | some fault => .error fault
        | none => .ok text, source)
  | standardInput octets fault =>
      match fault with
      | some reason => (.error (reason.fault inputFault), source)
      | none =>
          (match readOctets octets with
            | .error reason => .error (inputFault reason.message)
            | .ok text => .ok (some text), standardInput [] none)
  | file path => ((fetchFile desk.toDisk path).map some, source)
  | clipboard => ((fetchClipboard desk.clipboard).map some, source)

end Source

/-- The result of a delivery: the sink and the desk afterwards, the entries of
the journal, and the failure if there was one. -/
structure Delivery where
  sink : Sink
  desk : Desk
  events : List Event
  fault : Option Fault

namespace Sink

open Endpoint

def name : Sink → Text
  | memory name _ _ => name
  | standardOutput _ _ => standardOutputName
  | file _ => fileName
  | clipboard => clipboardName

def outputFault (reason : Text) : Fault :=
  .outputWrite ("cannot write standard output: " ++ reason)
    (some standardOutputName)

def fileFault (path : Path) (reason : Text) : Fault :=
  .outputWrite ("cannot write file " ++ path.spelling ++ ": " ++ reason)
    (some path.spelling)

def clipboardFault (reason : Text) : Fault :=
  .outputWrite ("cannot write clipboard: " ++ reason) (some clipboardName)

def deliverFile (desk : Desk) (path : Path) (text : Text) : Delivery :=
  let (files, fault) := desk.write path text
  { sink := file path
    desk := { desk with files }
    events :=
      if fault.isNone then [.textWritten text.length path.spelling] else []
    fault := fault.map (CallFault.fault (fileFault path)) }

/-- The text on the clipboard after another one is put on it, and the failure if
there is one.  The clipboard is closed in any case, and a failure of that hides
every other. -/
def fillClipboard (found : Clipboard) (text : Text) : Text × Option Fault :=
  match found.calls.opening with
  | some _ => (found.content, some (clipboardFault unavailableMessage))
  | none =>
      let (content, stopped) := found.fill text
      match found.calls.closing with
      | some reason => (content, some reason.escaped)
      | none =>
          (content, stopped.map fun reason => clipboardFault reason.message)

def deliverClipboard (desk : Desk) (text : Text) : Delivery :=
  let (content, fault) := fillClipboard desk.clipboard text
  { sink := clipboard
    desk := { desk with clipboard := { desk.clipboard with content } }
    events := []
    fault }

def deliver (sink : Sink) (desk : Desk) (text : Text) : Delivery :=
  match sink with
  | memory name delivered fault =>
      match fault with
      | some fault => ⟨sink, desk, [], some fault⟩
      | none => ⟨memory name (delivered ++ [text]) none, desk, [], none⟩
  | standardOutput received calls =>
      let (taken, fault) := calls.print (text ++ "\n")
      { sink := standardOutput (received ++ taken) calls
        desk
        events := []
        fault := fault.map (CallFault.fault outputFault) }
  | file path => deliverFile desk path text
  | clipboard => deliverClipboard desk text

end Sink

end SchemaSheet
