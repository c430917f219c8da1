/-!
# Texts

A text is a list of characters.  Strings can be written with escapes that stand
for half of a surrogate pair, so a character of a text is either a character of
its own or such a half.  Every code point is the code of exactly one character.
-/

namespace SchemaSheet

/-- A character of a text. -/
inductive Character where
  /-- A character of its own. -/
  | of (char : Char)
  /-- Half of a surrogate pair, by its place among all halves. -/
  | half (index : Fin 0x800)
  deriving DecidableEq, Repr

instance : Coe Char Character := ⟨Character.of⟩

/-- Lengths of texts and positions in them count characters. -/
abbrev Text := List Character

namespace Character

/-- The code point of the first half. -/
def firstHalf : Nat := 0xD800

def code : Character → Nat
  | of char => char.toNat
  | half index => firstHalf + index.val

def ofCode (code : Nat) : Character :=
  if found : firstHalf ≤ code ∧ code < firstHalf + 0x800 then
    half ⟨code - firstHalf, by omega⟩
  else of (Char.ofNat code)

/-- The character is one of its own and belongs to the class. -/
def isIn (accepts : Char → Bool) : Character → Bool
  | of char => accepts char
  | half _ => false

/-- The character is half of a surrogate pair. -/
def isHalf : Character → Bool
  | of _ => false
  | half _ => true

theorem ofCode_code (char : Character) : ofCode char.code = char := by
  cases char with
  | of char =>
      have outside :
          ¬(firstHalf ≤ char.toNat ∧ char.toNat < firstHalf + 0x800) := by
        have valid := char.valid
        simp only [UInt32.isValidChar, Nat.isValidChar] at valid
        simp only [firstHalf, Char.toNat]
        omega
      simp [code, ofCode, outside, Char.ofNat_toNat]
  | half index =>
      have inside : firstHalf ≤ firstHalf + index.val
          ∧ firstHalf + index.val < firstHalf + 0x800 := by omega
      simp [code, ofCode, inside]

theorem code_injective {left right : Character}
    (same : left.code = right.code) : left = right := by
  rw [← ofCode_code left, same, ofCode_code]

end Character

namespace Text

/-- The text that consists of the given characters of their own. -/
def ofChars (chars : List Char) : Text := chars.map Character.of

def ofString (string : String) : Text := ofChars string.toList

instance : Coe String Text := ⟨ofString⟩

/-- A whole number in decimal digits. -/
def ofNat (number : Nat) : Text := ofString (toString number)

/-- A whole number in decimal digits, with a minus sign in front of a negative
one. -/
def ofInt (number : Int) : Text := ofString (toString number)

/-- Texts one after the other, with a comma and a blank between them. -/
def listed (texts : List Text) : Text := (ofString ", ").intercalate texts

def codes (text : Text) : List Nat := text.map Character.code

theorem ofChars_injective {left right : List Char}
    (same : ofChars left = ofChars right) : left = right :=
  (List.map_inj_right fun _ _ equal => Character.of.inj equal).mp same

end Text

end SchemaSheet
