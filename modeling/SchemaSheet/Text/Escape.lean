import SchemaSheet.Text.Hexadecimal

/-!
# Texts as strings

A string has no halves of surrogate pairs.  In the string of a text each half is
written by its code point.
-/

namespace SchemaSheet

namespace Character

def escape : Character → Text
  | of char => [of char]
  | half index => "\\u" ++ Text.hexDigits 4 (half index).code

def own? : Character → Option Char
  | of char => some char
  | half _ => none

end Character

namespace Text

def toString (text : Text) : String :=
  String.ofList ((text.flatMap Character.escape).filterMap Character.own?)

/-- A text without halves has the string that it comes from. -/
theorem toString_ofString (string : String) :
    toString (ofString string) = string := by
  have whole (chars : List Char) :
      ((ofChars chars).flatMap Character.escape).filterMap Character.own?
        = chars := by
    induction chars with
    | nil => rfl
    | cons char rest induction =>
        have split : (ofChars (char :: rest)).flatMap Character.escape
            = .of char :: (ofChars rest).flatMap Character.escape := rfl
        rw [split, List.filterMap_cons, induction]
        rfl
  simp [toString, ofString, whole]

end Text

end SchemaSheet
