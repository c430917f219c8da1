import SchemaSheet.Text.CodeRange
import SchemaSheet.Text.Hexadecimal

/-!
# Octets as text

Files and streams hold octets.  Reading decodes them as UTF-8, refusing the
first ill-formed sequence with its place and the reason, and then turns every
line break into a line feed.
-/

namespace SchemaSheet

/-- Why a sequence of octets is not UTF-8. -/
inductive Utf8Reason where
  | invalidStart
  | invalidContinuation
  | unexpectedEnd
  deriving DecidableEq, Repr

/-- The first ill-formed sequence: `span` octets from `offset` on, of which
`lead` is the first. -/
structure Utf8Fault where
  lead : Nat
  offset : Nat
  span : Nat
  reason : Utf8Reason
  deriving DecidableEq, Repr

namespace Utf8

/-- Octets that follow a lead octet, and the bounds of the first of them. -/
def shape (lead : Nat) : Option (Nat × CodeRange) :=
  if lead < 0x80 then some (0, (0x80, 0xBF))
  else if lead < 0xC2 then none
  else if lead < 0xE0 then some (1, (0x80, 0xBF))
  else if lead = 0xE0 then some (2, (0xA0, 0xBF))
  else if lead = 0xED then some (2, (0x80, 0x9F))
  else if lead < 0xF0 then some (2, (0x80, 0xBF))
  else if lead = 0xF0 then some (3, (0x90, 0xBF))
  else if lead < 0xF4 then some (3, (0x80, 0xBF))
  else if lead = 0xF4 then some (3, (0x80, 0x8F))
  else none

/-- The bits that a lead octet with `owed` octets to follow contributes. -/
def leadBits (lead owed : Nat) : Nat :=
  match owed with
  | 0 => lead
  | 1 => lead % 0x20
  | 2 => lead % 0x10
  | _ => lead % 0x08

/-- Takes `owed` continuation octets, the first within `bounds`, onto `code`.
`taken` counts the octets of the sequence so far. -/
def continuation (owed : Nat) (bounds : CodeRange) (code taken : Nat)
    (octets : List UInt8) : Except (Nat × Utf8Reason) (Nat × List UInt8) :=
  match owed, octets with
  | 0, _ => .ok (code, octets)
  | _ + 1, [] => .error (taken, .unexpectedEnd)
  | owed + 1, octet :: rest =>
      if bounds.holds octet.toNat then
        continuation owed (0x80, 0xBF) (code * 0x40 + octet.toNat % 0x40)
          (taken + 1) rest
      else .error (taken, .invalidContinuation)

theorem length_of_continuation {owed : Nat} {bounds : CodeRange}
    {code taken : Nat} {octets : List UInt8} {result : Nat × List UInt8}
    (success : continuation owed bounds code taken octets = .ok result) :
    result.2.length ≤ octets.length := by
  induction owed generalizing bounds code taken octets with
  | zero =>
      simp only [continuation, Except.ok.injEq] at success
      simp [← success]
  | succ owed induction =>
      cases octets with
      | nil => simp [continuation] at success
      | cons octet rest =>
          simp only [continuation] at success
          split at success
          · have shorter := induction success
            simp only [List.length_cons]
            omega
          · simp at success

/-- Decodes the octets, of which the first stands at `offset`. -/
def decodeFrom (offset : Nat) (octets : List UInt8) : Except Utf8Fault Text :=
  match octets with
  | [] => .ok []
  | first :: rest =>
      match shape first.toNat with
      | none => .error ⟨first.toNat, offset, 1, .invalidStart⟩
      | some (owed, bounds) =>
          match step : continuation owed bounds (leadBits first.toNat owed) 1
              rest with
          | .error (span, reason) => .error ⟨first.toNat, offset, span, reason⟩
          | .ok (code, remaining) =>
              (decodeFrom (offset + owed + 1) remaining).map
                (.of (Char.ofNat code) :: ·)
termination_by octets.length
decreasing_by
  have shorter := length_of_continuation step
  simp only [List.length_cons] at shorter ⊢
  omega

def decode (octets : List UInt8) : Except Utf8Fault Text :=
  decodeFrom 0 octets

end Utf8

namespace Text

/-- Line feeds in place of all line breaks: a carriage return with or without a
line feed after it is one break. -/
def lineFeeds : Text → Text
  | .of '\r' :: .of '\n' :: rest => '\n' :: lineFeeds rest
  | .of '\r' :: rest => '\n' :: lineFeeds rest
  | char :: rest => char :: lineFeeds rest
  | [] => []

end Text

/-- The text of a file or stream: decoded, with its line breaks unified. -/
def readOctets (octets : List UInt8) : Except Utf8Fault Text :=
  (Utf8.decode octets).map Text.lineFeeds

namespace Utf8Reason

def message : Utf8Reason → Text
  | .invalidStart => "invalid start byte"
  | .invalidContinuation => "invalid continuation byte"
  | .unexpectedEnd => "unexpected end of data"

end Utf8Reason

namespace Utf8Fault

/-- One octet is named by its value, several by their places. -/
def message (fault : Utf8Fault) : Text :=
  if fault.span ≤ 1 then
    "'utf-8' codec can't decode byte 0x"
      ++ Text.hexDigits 2 fault.lead
      ++ " in position " ++ Text.ofNat fault.offset ++ ": "
      ++ fault.reason.message
  else
    "'utf-8' codec can't decode bytes in position " ++ Text.ofNat fault.offset
      ++ "-" ++ Text.ofNat (fault.offset + fault.span - 1) ++ ": "
      ++ fault.reason.message

end Utf8Fault

end SchemaSheet
