import SchemaSheet.Text.Utf8

/-!
# Text as octets

A text is written as UTF-8, which has no octets for halves of surrogate pairs.
An escape may give octets to some halves all the same; the first half without an
octet is refused, together with the halves next to it.

Names of files are octets of any kind.  Those that are no UTF-8 are kept as
halves, so that each sequence of octets is a text and has its own octets again.
-/

namespace SchemaSheet

/-- Why a text has no octets: `span` halves from `offset` on, of which the first
has the code point `first`. -/
structure EncodingFault where
  first : Nat
  offset : Nat
  span : Nat
  deriving DecidableEq, Repr

/-- The octets that take the place of halves, by the code points of these. -/
abbrev HalfEscape := Nat → Option UInt8

namespace HalfEscape

/-- No half has an octet. -/
def strict : HalfEscape := fun _ => none

/-- The halves that keep octets of names, from the octet `0x80` on. -/
def keptOctets : CodeRange := (0xDC80, 0xDCFF)

/-- How far the code point of a half is above the octet that it keeps. -/
def keptDistance : Nat := 0xDC00

/-- The octets that are kept as halves. -/
def names : HalfEscape := fun code =>
  if keptOctets.holds code then some (UInt8.ofNat (code - keptDistance))
  else none

/-- The half that keeps an octet. -/
def keep (octet : UInt8) : Character :=
  .ofCode (keptDistance + octet.toNat)

end HalfEscape

namespace Utf8

def refuses (escape : HalfEscape) (char : Character) : Bool :=
  char.isHalf && (escape char.code).isNone

def octetsOf (escape : HalfEscape) : Character → List UInt8
  | .of char => String.utf8EncodeChar char
  | .half index => (escape (Character.half index).code).toList

/-- The octets of a text without the characters that are refused. -/
def octets (escape : HalfEscape) (text : Text) : List UInt8 :=
  text.flatMap (octetsOf escape)

/-- The halves from an offset on, as the reason to refuse a text. -/
def faultAt (text : Text) (offset : Nat) : EncodingFault :=
  let run := (text.drop offset).takeWhile Character.isHalf
  ⟨(run.head?.map Character.code).getD 0, offset, run.length⟩

/-- The octets of a text, or its first halves that have none. -/
def encode (escape : HalfEscape) (text : Text) :
    Except EncodingFault (List UInt8) :=
  match text.findIdx? (refuses escape) with
  | some offset => .error (faultAt text offset)
  | none => .ok (octets escape text)

theorem encode_ofChars (escape : HalfEscape) (chars : List Char) :
    encode escape (Text.ofChars chars)
      = .ok (chars.flatMap String.utf8EncodeChar) := by
  have accepted : (Text.ofChars chars).findIdx? (refuses escape) = none := by
    rw [List.findIdx?_eq_none_iff]
    intro char member
    obtain ⟨own, _, rfl⟩ := List.mem_map.mp member
    rfl
  rw [encode, accepted]
  simp [octets, Text.ofChars, List.flatMap_map, octetsOf]

/-- The character that the octets begin with, and the octets after it. -/
def next? (first : UInt8) (rest : List UInt8) : Option (Char × List UInt8) :=
  match shape first.toNat with
  | none => none
  | some (owed, bounds) =>
      match continuation owed bounds (leadBits first.toNat owed) 1 rest with
      | .error _ => none
      | .ok (code, remaining) => some (Char.ofNat code, remaining)

theorem length_of_next? {first : UInt8} {rest remaining : List UInt8}
    {char : Char} (found : next? first rest = some (char, remaining)) :
    remaining.length ≤ rest.length := by
  unfold next? at found
  split at found
  · simp at found
  · split at found
    · simp at found
    · rename_i step
      simp only [Option.some.injEq, Prod.mk.injEq] at found
      obtain ⟨_, rfl⟩ := found
      exact length_of_continuation step

/-- The text of octets of any kind.  An octet that begins no character is kept
as a half. -/
def decodeNames : List UInt8 → Text
  | [] => []
  | first :: rest =>
      match found : next? first rest with
      | none => HalfEscape.keep first :: decodeNames rest
      | some (char, remaining) =>
          have := length_of_next? found
          .of char :: decodeNames remaining
termination_by octets => octets.length

end Utf8

namespace EncodingFault

/-- One half is named by its code point, several by their places. -/
def message (fault : EncodingFault) : Text :=
  let place : Text := if fault.span ≤ 1 then
    "character '\\u" ++ Text.hexDigits 4 fault.first
      ++ "' in position " ++ Text.ofNat fault.offset
  else
    "characters in position " ++ Text.ofNat fault.offset ++ "-"
      ++ Text.ofNat (fault.offset + fault.span - 1)
  "'utf-8' codec can't encode " ++ place ++ ": surrogates not allowed"

def kind : String := "UnicodeEncodeError"

end EncodingFault

end SchemaSheet
