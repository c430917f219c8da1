import SchemaSheet.Token.Basic

/-!
# Lexemes

The division of a text into lexemes, from left to right: comments, line breaks,
blanks, quoted names and texts, numbers, punctuation, words, and single
characters that are none of these.  An unclosed quote or comment is such a
single character.  `flatMap_lexemes` says that nothing is lost.
-/

namespace SchemaSheet

/-- A piece of a text with its kind. -/
structure Lexeme where
  kind : Kind
  text : Text
  deriving DecidableEq, Repr

namespace Lexeme

/-- Characters at the front of the text that the class accepts. -/
def runLength (accepts : Character → Bool) (text : Text) : Nat :=
  (text.takeWhile accepts).length

/-- A blank inside a line. -/
def isLineBlank (char : Character) : Bool :=
  char == ' ' || char == '\t' || char == '\x0b' || char == '\x0c'

/-- A character that does not end a line. -/
def isInLine (char : Character) : Bool :=
  char != '\r' && char != '\n'

def beginsWord (text : Text) : Bool :=
  text.head?.any isWordChar

/-- Characters up to the end of the first `*/`. -/
def blockCommentLength? : Text → Option Nat
  | [] => none
  | .of '*' :: .of '/' :: _ => some 2
  | _ :: rest => (blockCommentLength? rest).map (· + 1)

/-- Characters up to the closing quote, that one included.

A quoted body is a sequence of units: an ordinary character, a doubled quote,
or, where backslashes escape, a backslash with any character but a line feed.
The longest body that a quote follows wins, so a doubled quote closes the body
at its first half when nothing closes it later. -/
def quotedLength? (quote : Character) (escapes : Bool) : Text → Option Nat
  | [] => none
  | char :: rest =>
      if char = quote then
        match rest with
        | [] => some 1
        | next :: later =>
            if next = quote then
              match quotedLength? quote escapes later with
              | some length => some (length + 2)
              | none => some 1
            else some 1
      else if escapes && char == '\\' then
        match rest with
        | [] => none
        | next :: later =>
            if next = '\n' then none
            else (quotedLength? quote escapes later).map (· + 2)
      else (quotedLength? quote escapes rest).map (· + 1)

/-- A lexeme that opens with a quote; alone, the quote is an operator. -/
def quoted (kind : Kind) (quote : Character) (escapes : Bool) (text : Text) :
    Kind × Nat :=
  match quotedLength? quote escapes text with
  | some length => (kind, length)
  | none => (.operator, 0)

/-- Characters of a fraction, its point included, if the text begins with one
and no word character follows it. -/
def fractionLength? : Text → Option Nat
  | .of '.' :: rest =>
      let digits := runLength isDigit rest
      if digits = 0 ∨ beginsWord (rest.drop digits) then none
      else some (digits + 1)
  | _ => none

/-- A lexeme that opens with a digit.  Digits that touch another word character
belong to a word. -/
def numeral (text : Text) : Kind × Nat :=
  let digits := runLength isDigit text
  let rest := text.drop digits
  match fractionLength? rest with
  | some length => (.number, digits + length)
  | none =>
      if beginsWord rest then (.word, runLength isWordChar text)
      else (.number, digits)

/-- A lexeme that opens with `/`: a block comment, if it is closed. -/
def slash : Text → Kind × Nat
  | .of '*' :: rest =>
      match blockCommentLength? rest with
      | some length => (.comment, length + 1)
      | none => (.operator, 0)
  | _ => (.operator, 0)

/-- The kind of the first lexeme of the text `char :: text`, and how many
characters it has after `char`. -/
def first (char : Character) (text : Text) : Kind × Nat :=
  if char = '-' then
    if text.head? = some (.of '-') then (.comment, runLength isInLine text)
    else (.operator, 0)
  else if char = '/' then slash text
  else if char = '#' then (.comment, runLength isInLine text)
  else if char = '\r' then
    (.lineBreak, if text.head? = some (.of '\n') then 1 else 0)
  else if char = '\n' then (.lineBreak, 0)
  else if isLineBlank char then (.blank, runLength isLineBlank text)
  else if char = '\'' then quoted .quotedText '\'' true text
  else if char = '"' then quoted .quotedName '"' true text
  else if char = backquote then quoted .quotedName backquote false text
  else if isDigit char then numeral text
  else if char = ',' then (.comma, 0)
  else if char = '.' then (.dot, 0)
  else if char = ';' then (.semicolon, 0)
  else if char = '(' then (.openParen, 0)
  else if char = ')' then (.closeParen, 0)
  else if isWordChar char then (.word, runLength isWordChar text)
  else (.operator, 0)

end Lexeme

def lexemes : Text → List Lexeme
  | [] => []
  | char :: text =>
      let (kind, length) := Lexeme.first char text
      ⟨kind, char :: text.take length⟩ :: lexemes (text.drop length)
termination_by text => text.length
decreasing_by
  simp only [List.length_drop, List.length_cons]
  omega

/-- The lexemes of a text, put together again, are the text. -/
theorem flatMap_lexemes (text : Text) :
    (lexemes text).flatMap Lexeme.text = text := by
  induction text using lexemes.induct with
  | case1 => simp [lexemes]
  | case2 char text kind length found induction =>
      simp [lexemes, found, induction]

end SchemaSheet
