import SchemaSheet.Json.Value
import SchemaSheet.Number.Shortest
import SchemaSheet.Text.Hexadecimal
import SchemaSheet.Text.Printable

/-!
# The display of values

How a rejected value is shown in the details of a failure: on one line, with
texts in quotes and characters that do not print as numbers.
-/

namespace SchemaSheet

namespace Text

def displayChar (quote char : Character) : Text :=
  if char = quote ∨ char = '\\' then ['\\', char]
  else if char = '\n' then "\\n"
  else if char = '\r' then "\\r"
  else if char = '\t' then "\\t"
  else if isPrintable char then [char]
  else if char.code < 0x100 then "\\x" ++ hexDigits 2 char.code
  else if char.code < 0x10000 then "\\u" ++ hexDigits 4 char.code
  else "\\U" ++ hexDigits 8 char.code

/-- A text in quotes: single ones, or double ones where that spares the text
its own single quotes. -/
def display (text : Text) : Text :=
  let quote : Character :=
    if text.contains '\'' && !text.contains '"' then '"' else '\''
  quote :: text.flatMap (displayChar quote) ++ [quote]

end Text

namespace Json

mutual

def display : Json → Text
  | null => "None"
  | bool true => "True"
  | bool false => "False"
  | integer value => Text.ofInt value
  | real value => Text.ofChars value.display
  | text value => Text.display value
  | array items => "[" ++ Text.listed (displayItems items) ++ "]"
  | object members =>
      "\x7b" ++ Text.listed (displayMembers members) ++ "\x7d"

def displayItems : List Json → List Text
  | [] => []
  | item :: rest => item.display :: displayItems rest

def displayMembers : List (Text × Json) → List Text
  | [] => []
  | (name, value) :: rest =>
      (Text.display name ++ ": " ++ value.display) :: displayMembers rest

end

end Json

end SchemaSheet
