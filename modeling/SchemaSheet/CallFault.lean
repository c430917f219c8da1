import SchemaSheet.Fault
import SchemaSheet.Text.Encoding

/-!
# Failures of calls

What is outside of the program is reached by calls: files, streams and the
clipboard.  A call can fail because the system refuses, or for any other reason,
and only the former is a failure that the program expects.
-/

namespace SchemaSheet

/-- Why a call to something outside of the program fails. -/
structure CallFault where
  kind : String
  message : Text
  /-- The system has refused to read or to write. -/
  refused : Bool
  deriving DecidableEq, Repr

namespace CallFault

/-- The failure as one that the program does not know. -/
def escaped (reason : CallFault) : Fault := .foreign reason.kind reason.message

/-- The failure of the program because of a call.  It is worded where the system
has refused, and else it is none that the program knows. -/
def fault (wording : Text → Fault) (reason : CallFault) : Fault :=
  if reason.refused then wording reason.message else reason.escaped

end CallFault

/-- A text without octets cannot be written. -/
def EncodingFault.callFault (reason : EncodingFault) : CallFault :=
  ⟨kind, reason.message, false⟩

end SchemaSheet
