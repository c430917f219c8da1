import SchemaSheet.Text.Blank
import SchemaSheet.Text.WordChar

/-!
# Patterns

A small language of text patterns with ordered choice.  A pattern is read at a
cursor and gives the list of cursors where it may end, the preferred ones
first; the first of them is the match.  Letters are compared without regard to
case.
-/

namespace SchemaSheet

/-- A point in a text: how many characters have been passed, the last of them,
and the text ahead. -/
structure Cursor where
  passed : Nat
  before : Option Character
  ahead : Text

/-- What a pattern may ask of a text. -/
inductive Pattern where
  | nothing
  | one (accepts : Character → Bool)
  /-- Characters of a class, as many as there are, then fewer. -/
  | run (accepts : Character → Bool)
  /-- Characters of a class, none at first, then more. -/
  | shortRun (accepts : Character → Bool)
  | both (first second : Pattern)
  | either (first second : Pattern)
  /-- The pattern over and over, as often as it goes, then less often.  The
  pattern has to take at least one character each time. -/
  | often (pattern : Pattern)
  /-- The pattern follows; nothing is taken. -/
  | isNext (pattern : Pattern)
  /-- The pattern does not follow; nothing is taken. -/
  | isNotNext (pattern : Pattern)
  /-- The character before, if any, is of the class. -/
  | isBefore (accepts : Option Character → Bool)
  /-- A word begins or ends here. -/
  | wordEdge
  /-- The text ends here, or with the line feed that is next. -/
  | textEnd

namespace Cursor

/-- The cursors along a run of the class, the last one first, in front of the
given ones.  The run goes on with `ahead`. -/
def alongRun (accepts : Character → Bool) (passed : Nat)
    (before : Option Character) (ahead : Text) (others : List Cursor) :
    List Cursor :=
  let cursors := ⟨passed, before, ahead⟩ :: others
  match ahead with
  | [] => cursors
  | char :: rest =>
      if accepts char then
        alongRun accepts (passed + 1) (some char) rest cursors
      else cursors

/-- The cursors where following `ends` up to `limit` times may end, in front of
the given ones.  Going on is preferred to stopping. -/
def repeated (ends : Cursor → List Cursor) (limit : Nat) (cursor : Cursor)
    (others : List Cursor) : List Cursor :=
  match limit with
  | 0 => cursor :: others
  | limit + 1 => (ends cursor).foldr (repeated ends limit) (cursor :: others)

/-- A word character stands on exactly one side of the cursor. -/
def isWordEdge (cursor : Cursor) : Bool :=
  cursor.before.any isWordChar != cursor.ahead.head?.any isWordChar

end Cursor

namespace Pattern

/-- Where the pattern may end when it is read at the cursor, in order of
preference. -/
def ends : Pattern → Cursor → List Cursor
  | nothing, cursor => [cursor]
  | one accepts, cursor =>
      match cursor.ahead with
      | [] => []
      | char :: rest =>
          if accepts char then [⟨cursor.passed + 1, some char, rest⟩] else []
  | run accepts, cursor =>
      Cursor.alongRun accepts cursor.passed cursor.before cursor.ahead []
  | shortRun accepts, cursor =>
      (Cursor.alongRun accepts cursor.passed cursor.before cursor.ahead
        []).reverse
  | both first second, cursor => (first.ends cursor).flatMap second.ends
  | either first second, cursor => first.ends cursor ++ second.ends cursor
  | often pattern, cursor =>
      Cursor.repeated pattern.ends cursor.ahead.length cursor []
  | isNext pattern, cursor =>
      if (pattern.ends cursor).isEmpty then [] else [cursor]
  | isNotNext pattern, cursor =>
      if (pattern.ends cursor).isEmpty then [cursor] else []
  | isBefore accepts, cursor => if accepts cursor.before then [cursor] else []
  | wordEdge, cursor => if cursor.isWordEdge then [cursor] else []
  | textEnd, cursor =>
      if cursor.ahead = [] ∨ cursor.ahead = "\n" then [cursor] else []

/-- How many characters the preferred match takes, if there is a match. -/
def length? (pattern : Pattern) (cursor : Cursor) : Option Nat :=
  (pattern.ends cursor).head?.map fun stop => stop.passed - cursor.passed

def sequence : List Pattern → Pattern
  | [] => nothing
  | [pattern] => pattern
  | pattern :: rest => both pattern (sequence rest)

def choice : List Pattern → Pattern
  | [] => isNotNext nothing
  | [pattern] => pattern
  | pattern :: rest => either pattern (choice rest)

def optional (pattern : Pattern) : Pattern := either pattern nothing

/-- One character of the class or more, as many as there are. -/
def someOf (accepts : Character → Bool) : Pattern :=
  both (one accepts) (run accepts)

def exactly (char : Character) : Pattern := one (· == char)

/-- The characters of the text, with their case. -/
def literally (text : Text) : Pattern := sequence (text.map exactly)

/-- Do both letters differ in case only?  The first is an upper-case letter or
no letter.  A dotless or dotted `i`, a long `s` and the sign of the kelvin
count as letters of the class that their plain forms belong to. -/
def sameLetter (upper char : Char) : Bool :=
  char == upper || (upper.isUpper && char == upper.toLower)
    || (upper == 'I' && (char == 'ı' || char == 'İ'))
    || (upper == 'S' && char == 'ſ')
    || (upper == 'K' && char == '\u212a')

/-- One letter, whatever its case. -/
def letter (upper : Character) : Pattern :=
  one fun char =>
    match upper, char with
    | .of upper, .of char => sameLetter upper char
    | _, _ => char == upper

/-- A word that is given in upper case, whatever its case in the text. -/
def word (spelling : Text) : Pattern := sequence (spelling.map letter)

def blanks : Pattern := someOf isBlank

/-- The words in this order, with blanks between them. -/
def phrase : List Text → Pattern
  | [] => nothing
  | [only] => word only
  | first :: rest => sequence [word first, blanks, phrase rest]

end Pattern

end SchemaSheet
