import SchemaSheet.CallFault

/-!
# Clipboards and streams

What can be reached by calls besides files.  Each call may fail for a reason of
its own.  A call to a clipboard that fails leaves alone what is on it, and a
stream that fails may have taken a part of the text.
-/

namespace SchemaSheet

/-- What the calls to a clipboard come to: why they fail, if they do. -/
structure ClipboardCalls where
  opening : Option CallFault
  reading : Option CallFault
  clearing : Option CallFault
  appending : Option CallFault
  updating : Option CallFault
  closing : Option CallFault
  deriving DecidableEq, Repr

namespace ClipboardCalls

/-- No call fails. -/
def sound : ClipboardCalls := ⟨none, none, none, none, none, none⟩

end ClipboardCalls

structure Clipboard where
  content : Text
  calls : ClipboardCalls
  deriving DecidableEq, Repr

namespace Clipboard

/-- The text on an open clipboard after another one is put on it, and the
failure if there is one.  The clipboard is cleared first. -/
def fill (clipboard : Clipboard) (text : Text) : Text × Option CallFault :=
  match clipboard.calls.clearing with
  | some reason => (clipboard.content, some reason)
  | none =>
      match clipboard.calls.appending with
      | some reason => ([], some reason)
      | none => (text, clipboard.calls.updating)

end Clipboard

/-- What the calls to an output stream come to. -/
structure StreamCalls where
  /-- The writing of a text.  A call that fails has taken so many characters. -/
  writing : Text → Option (Nat × CallFault)
  flushing : Option CallFault

namespace StreamCalls

/-- No call fails. -/
def sound : StreamCalls := ⟨fun _ => none, none⟩

/-- A stream that takes what has octets. -/
def encoding : StreamCalls :=
  { writing := fun text =>
      match Utf8.encode .strict text with
      | .error reason => some (0, reason.callFault)
      | .ok _ => none
    flushing := none }

/-- What the stream takes of a text, and the failure if there is one. -/
def print (calls : StreamCalls) (text : Text) : Text × Option CallFault :=
  match calls.writing text with
  | some (count, reason) => (text.take count, some reason)
  | none => (text, calls.flushing)

end StreamCalls

end SchemaSheet
