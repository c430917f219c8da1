import SchemaSheet.Text.Basic

/-!
# Numbers in base sixteen

Codes of octets and characters are written with a fixed count of digits.
-/

namespace SchemaSheet

namespace Text

/-- A digit of a number in base sixteen. -/
def hexDigit (digit : Nat) : Character :=
  Char.ofNat (if digit < 10 then 0x30 + digit else 0x57 + digit)

/-- The last `count` digits of a number in base sixteen. -/
def hexDigits : Nat → Nat → Text
  | 0, _ => []
  | count + 1, number =>
      hexDigits count (number / 16) ++ [hexDigit (number % 16)]

theorem length_hexDigits (count number : Nat) :
    (hexDigits count number).length = count := by
  induction count generalizing number with
  | zero => rfl
  | succ count induction => simp [hexDigits, induction]

end Text

end SchemaSheet
