import SchemaSheet.Json.Value
import SchemaSheet.Text.Basic

/-!
# Reading JSON

A reader of JSON texts.  Beside the standard's values it takes `NaN`,
`Infinity` and `-Infinity`, and in strings halves of surrogate pairs; of two
members with one name the later value counts.
A reader returns what it has read and the rest of the text, or why the text does
not begin with what it reads.  The first fault from the left is the one that is
reported: a limit that is exceeded hides what is wrong behind it.  Where a fault
stands is told by the characters that are left from it on.
-/

namespace SchemaSheet

/-- How large the values may be that a text writes.  An absent limit is no
limit. -/
structure JsonLimits where
  digits : Option Nat
  /-- The arrays and objects that contain each other. -/
  depth : Option Nat
  deriving DecidableEq, Repr

/-- What is wrong with a text that writes no value. -/
inductive JsonProblem where
  /-- The text begins with a mark of the order of octets. -/
  | orderMark
  | noValue
  | noName
  | noColon
  | noComma
  | unclosedString
  | controlCharacter
  | unknownEscape
  /-- A code point that is not written with four digits in base sixteen. -/
  | incompleteCode
  | moreText
  deriving DecidableEq, Repr

/-- Why a text cannot be read as a JSON value. -/
inductive JsonFault where
  /-- The text writes no value.  From the problem on, `left` characters are
  left. -/
  | invalid (problem : JsonProblem) (left : Nat)
  | longInteger (limit digits : Nat)
  | deepArray
  | deepObject
  deriving DecidableEq, Repr

namespace JsonProblem

def wording : JsonProblem → Text
  | orderMark => "Unexpected UTF-8 BOM (decode using utf-8-sig)"
  | noValue => "Expecting value"
  | noName => "Expecting property name enclosed in double quotes"
  | noColon => "Expecting ':' delimiter"
  | noComma => "Expecting ',' delimiter"
  | unclosedString => "Unterminated string starting at"
  | controlCharacter => "Invalid control character at"
  | unknownEscape => "Invalid \\escape"
  | incompleteCode => "Invalid \\uXXXX escape"
  | moreText => "Extra data"

/-- The wording of a problem behind the characters in front of it: with its
line, its column and its position. -/
def message (problem : JsonProblem) (before : Text) : Text :=
  let line := before.count (.of '\n') + 1
  let column := (before.reverse.takeWhile (· != .of '\n')).length + 1
  problem.wording ++ ": line " ++ Text.ofNat line ++ " column "
    ++ Text.ofNat column ++ " (char " ++ Text.ofNat before.length ++ ")"

end JsonProblem

namespace JsonLimits

def none : JsonLimits := ⟨.none, .none⟩

/-- The limit that a number of digits exceeds, if it exceeds one. -/
def exceeded? (limits : JsonLimits) (digits : Nat) : Option Nat :=
  limits.digits.filter (· < digits)

/-- The limits inside an array or object, or nothing if none may be there. -/
def inside? (limits : JsonLimits) : Option JsonLimits :=
  match limits.depth with
  | .none => some limits
  | some 0 => .none
  | some (depth + 1) => some { limits with depth := some depth }

end JsonLimits

namespace JsonReader

abbrev Reader (α : Type) := Text → Except JsonFault (α × Text)

/-- A problem where the text begins. -/
def fault {α : Type} (problem : JsonProblem) (text : Text) :
    Except JsonFault α :=
  .error (.invalid problem text.length)

/-- A blank between the pieces of a JSON text. -/
def isSpace (char : Character) : Bool :=
  char == ' ' || char == '\t' || char == '\n' || char == '\r'

/-- The text without the blanks at its front. -/
def skipSpace (text : Text) : Text := text.dropWhile isSpace

/-- The value of a digit in base sixteen. -/
def hexValue? : Character → Option Nat
  | .half _ => none
  | .of char =>
      if char.isDigit then some (char.toNat - 0x30)
      else if 'a' ≤ char ∧ char ≤ 'f' then some (char.toNat - 0x57)
      else if 'A' ≤ char ∧ char ≤ 'F' then some (char.toNat - 0x37)
      else none

/-- The number that four digits in base sixteen write. -/
def hexCode? (first second third fourth : Character) : Option Nat := do
  let first ← hexValue? first
  let second ← hexValue? second
  let third ← hexValue? third
  let fourth ← hexValue? fourth
  return ((first * 16 + second) * 16 + third) * 16 + fourth

/-- The code point that is written behind the letter `u`.  Something has to
follow it. -/
def codePoint : Reader Nat := fun text =>
  let found :=
    match text with
    | first :: second :: third :: fourth :: next :: rest =>
        (hexCode? first second third fourth).map (·, next :: rest)
    | _ => none
  match found with
  | some found => .ok found
  | none => fault .incompleteCode ('u' :: text)

/-- The character that a letter stands for after a backslash. -/
def escaped? : Character → Option Character
  | .of '"' => some '"'
  | .of '\\' => some '\\'
  | .of '/' => some '/'
  | .of 'b' => some '\x08'
  | .of 'f' => some '\x0c'
  | .of 'n' => some '\n'
  | .of 'r' => some '\r'
  | .of 't' => some '\t'
  | _ => none

/-- The code point that two surrogates make up. -/
def joined (high low : Nat) : Nat :=
  0x10000 + (high - 0xD800) * 0x400 + (low - 0xDC00)

/-- The character that is written behind the letter `u`.  The halves of a
surrogate pair, one behind the other, are one character. -/
def escapedCode : Reader Character := fun text => do
  let (high, rest) ← codePoint text
  let alone := (Character.ofCode high, rest)
  match rest with
  | .of '\\' :: .of 'u' :: later =>
      if 0xD800 ≤ high ∧ high < 0xDC00 ∧ 4 < later.length then
        let (low, behind) ← codePoint later
        if 0xDC00 ≤ low ∧ low < 0xE000 then
          return (Character.ofCode (joined high low), behind)
        else return alone
      else return alone
  | _ => return alone

/-- What is written behind a backslash, in a string that begins where `opening`
characters are left. -/
def escape (opening : Nat) : Reader Character
  | [] => .error (.invalid .unclosedString opening)
  | .of 'u' :: rest => escapedCode rest
  | char :: rest =>
      match escaped? char with
      | some found => .ok (found, rest)
      | none => fault .unknownEscape ('\\' :: char :: rest)

/-- The rest of a string that begins where `opening` characters are left, of at
most `size` characters. -/
def stringRest (opening : Nat) : Nat → Reader Text
  | 0, _ => .error (.invalid .unclosedString opening)
  | _ + 1, [] => .error (.invalid .unclosedString opening)
  | _ + 1, .of '"' :: rest => .ok ([], rest)
  | size + 1, .of '\\' :: rest => do
      let (char, rest) ← escape opening rest
      let (text, rest) ← stringRest opening size rest
      return (char :: text, rest)
  | size + 1, char :: rest =>
      if char.code < 0x20 then fault .controlCharacter (char :: rest)
      else do
        let (text, rest) ← stringRest opening size rest
        return (char :: text, rest)

/-- A string behind its opening quote. -/
def string : Reader Text := fun rest =>
  stringRest (rest.length + 1) (rest.length + 1) rest

/-- The number that decimal digits write. -/
def digitsValue (digits : Text) : Nat :=
  digits.foldl (fun value digit => value * 10 + (digit.code - 0x30)) 0

def isDigit (char : Character) : Bool := char.isIn Char.isDigit

def digits (text : Text) : Text × Text :=
  (text.takeWhile isDigit, text.dropWhile isDigit)

def fraction (text : Text) : Text × Text :=
  match text with
  | .of '.' :: rest =>
      match digits rest with
      | ([], _) => ([], text)
      | found => found
  | _ => ([], text)

def exponent (text : Text) : Option Int × Text :=
  match text with
  | mark :: rest =>
      if mark = 'e' ∨ mark = 'E' then
        let (negative, unsigned) : Bool × Text :=
          match rest with
          | .of '-' :: later => (true, later)
          | .of '+' :: later => (false, later)
          | _ => (false, rest)
        match digits unsigned with
        | ([], _) => (none, text)
        | (found, later) =>
            let size : Int := digitsValue found
            (some (if negative then -size else size), later)
      else (none, text)
  | [] => (none, text)

def integer (limits : JsonLimits) (negative : Bool) (digits : Text) :
    Except JsonFault Json :=
  match limits.exceeded? digits.length with
  | some limit => .error (.longInteger limit digits.length)
  | none =>
      let size : Int := digitsValue digits
      .ok (.integer (if negative then -size else size))

/-- The digits of a number in front of its fraction, if there are any.  There is
no needless zero among them. -/
def whole : Text → Text × Text
  | .of '0' :: rest => (['0'], rest)
  | text => digits text

/-- A number with its sign. -/
def number (limits : JsonLimits) : Reader Json := fun text =>
  let (negative, unsigned) : Bool × Text :=
    match text with
    | .of '-' :: rest => (true, rest)
    | _ => (false, text)
  match whole unsigned with
  | ([], _) => fault .noValue text
  | (whole, rest) => do
      let (places, rest) := fraction rest
      let (power, rest) := exponent rest
      if places.isEmpty && power.isNone then
        return (← integer limits negative whole, rest)
      else
        let scale := power.getD 0 - places.length
        let value :=
          Binary64.ofDecimal negative (digitsValue (whole ++ places)) scale
        return (.real value, rest)

/-- The words that are values, with their values. -/
def literals : List (Text × Json) :=
  [("null", .null), ("true", .bool true), ("false", .bool false),
    ("NaN", .real .nan), ("Infinity", .real (.infinite false)),
    ("-Infinity", .real (.infinite true))]

/-- A value without parts: a word or a number. -/
def scalar (limits : JsonLimits) : Reader Json := fun text =>
  match literals.find? fun literal => literal.1.isPrefixOf text with
  | some (word, value) => .ok (value, text.drop word.length)
  | none => number limits text

mutual

/-- A value of at most `size` pieces, of which one is read at each step. -/
def value (size : Nat) (limits : JsonLimits) (text : Text) :
    Except JsonFault (Json × Text) :=
  match size with
  | 0 => fault .noValue text
  | size + 1 =>
      match text with
      | .of '"' :: rest => do
          let (content, rest) ← string rest
          return (.text content, rest)
      | .of '[' :: rest =>
          match limits.inside? with
          | none => .error .deepArray
          | some limits =>
              match skipSpace rest with
              | .of ']' :: rest => .ok (.array [], rest)
              | rest => do
                  let (found, rest) ← items size limits rest
                  return (.array found, rest)
      | .of '\x7b' :: rest =>
          match limits.inside? with
          | none => .error .deepObject
          | some limits =>
              match skipSpace rest with
              | .of '\x7d' :: rest => .ok (.object [], rest)
              | rest => do
                  let (found, rest) ← members size limits [] rest
                  return (.object found, rest)
      | _ => scalar limits text

def items (size : Nat) (limits : JsonLimits) (text : Text) :
    Except JsonFault (List Json × Text) :=
  match size with
  | 0 => fault .noValue text
  | size + 1 => do
      let (first, rest) ← value size limits text
      match skipSpace rest with
      | .of ']' :: rest => return ([first], rest)
      | .of ',' :: rest =>
          let (others, rest) ← items size limits (skipSpace rest)
          return (first :: others, rest)
      | rest => fault .noComma rest

/-- The members of an object, up to its end, after those found so far. -/
def members (size : Nat) (limits : JsonLimits) (found : Members)
    (text : Text) : Except JsonFault (Members × Text) :=
  match size with
  | 0 => fault .noName text
  | size + 1 =>
      match text with
      | .of '"' :: rest => do
          let (name, rest) ← string rest
          match skipSpace rest with
          | .of ':' :: rest =>
              let (content, rest) ← value size limits (skipSpace rest)
              let found := Members.put found name content
              match skipSpace rest with
              | .of '\x7d' :: rest => return (found, rest)
              | .of ',' :: rest => members size limits found (skipSpace rest)
              | rest => fault .noComma rest
          | rest => fault .noColon rest
      | text => fault .noName text

end

end JsonReader

namespace Json

/-- The mark of the order of octets, which no value begins with. -/
def orderMark : Character := .of '\uFEFF'

/-- The value that a text writes, with blanks around it and nothing else. -/
def read (limits : JsonLimits) (text : Text) : Except JsonFault Json :=
  if text.head? = some orderMark then JsonReader.fault .orderMark text
  else do
    let (found, rest) ←
      JsonReader.value (2 * text.length + 2) limits (JsonReader.skipSpace text)
    let behind := JsonReader.skipSpace rest
    if behind.isEmpty then return found
    else JsonReader.fault .moreText behind

end Json

end SchemaSheet
