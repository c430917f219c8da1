import SchemaSheet.Text.Basic
import SchemaSheet.Text.CodeRange

/-!
# Blanks

The characters that count as blank when a text is trimmed, tested for
emptiness, or divided into words.
-/

namespace SchemaSheet

/-- The blank characters: controls U+0009 to U+000D and U+001C to U+001F, the
next-line control, and every space and separator of the standard. -/
def blankRanges : List CodeRange :=
  [(0x9, 0xD), (0x1C, 0x20), (0x85, 0x85), (0xA0, 0xA0), (0x1680, 0x1680),
    (0x2000, 0x200A), (0x2028, 0x2029), (0x202F, 0x202F), (0x205F, 0x205F),
    (0x3000, 0x3000)]

def isBlank (char : Character) : Bool :=
  CodeRange.anyHolds blankRanges char.code

/-- What holds of every blank can be checked blank by blank. -/
theorem forall_isBlank {P : Character → Prop}
    (checked : ∀ code ∈ CodeRange.listed blankRanges, P (Character.ofCode code))
    {char : Character} (isBlankChar : isBlank char = true) : P char := by
  rw [← Character.ofCode_code char]
  exact checked char.code (CodeRange.mem_listed isBlankChar)

namespace Text

def isBlankText (text : Text) : Bool :=
  text.all isBlank

def trimStart (text : Text) : Text :=
  text.dropWhile isBlank

def trimEnd (text : Text) : Text :=
  (text.reverse.dropWhile isBlank).reverse

def trim (text : Text) : Text :=
  text.trimStart.trimEnd

/-- `wordsFrom word text` continues the words of `text`, where `word` is the
reversed beginning of a word that is still open. -/
def wordsFrom (word : Text) : Text → List Text
  | [] => if word.isEmpty then [] else [word.reverse]
  | char :: rest =>
      if isBlank char then
        if word.isEmpty then wordsFrom [] rest
        else word.reverse :: wordsFrom [] rest
      else wordsFrom (char :: word) rest

/-- The maximal runs of characters that are not blank, in order. -/
def words (text : Text) : List Text :=
  wordsFrom [] text

end Text

end SchemaSheet
