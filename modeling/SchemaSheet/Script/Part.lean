import SchemaSheet.Script.Shape
import SchemaSheet.Text.Uppercase

/-!
# Parts of a script

Before a script is divided into statements it is divided into parts.  Only the
parts that can open, close or end a statement are told apart; the many dialects
that a script may be written in decide where a part ends.  `flatMap_parts` says
that nothing is lost.
-/

namespace SchemaSheet

namespace Script

/-- What a part is for the division into statements. -/
inductive Role where
  | space
  | lineBreak
  | lineComment
  | blockComment
  | punctuation
  | keyword
  | creation
  | other
  deriving DecidableEq, Repr

/-- A piece of a script with its role. -/
structure Part where
  role : Role
  text : Text
  deriving DecidableEq, Repr

/-- A pattern of parts, and the role of a part that it matches. -/
structure Rule where
  role : Text → Role
  pattern : Pattern

/-- Words that open, close or end a block of statements. -/
def blockWords : List Text :=
  ["BEGIN", "DECLARE", "IF", "END", "LOOP", "FOR", "WHILE", "CASE", "DO", "GO",
    "TRANSACTION", "WORK", "DEFERRED", "IMMEDIATE", "EXCLUSIVE"]

def wordRole (text : Text) : Role :=
  let upper := Text.upper text
  if upper = "CREATE" then .creation
  else if blockWords.contains upper then .keyword
  else .other

open Pattern

/-- The rules of parts.  The first rule that matches decides. -/
def rules : List Rule :=
  let as (role : Role) (pattern : Pattern) : Rule :=
    ⟨fun _ => role, pattern⟩
  [as .other (sequence [lineCommentStart, exactly '+', lineRest]),
    as .lineComment (both lineCommentStart lineRest),
    as .lineBreak (choice [literally "\r\n", exactly '\r', exactly '\n']),
    as .space (one isBlank),
    as .other (literally ":="),
    as .punctuation (literally "::"),
    as .other (exactly '*'),
    as .other (doubling backquote),
    as .other (doubling acute),
    as .other (exactly '?'),
    as .other (sequence [exactly '%',
      optional (sequence [exactly '(', someOf isWordChar, exactly ')']),
      letter 'S']),
    as .other (sequence [isBefore fun before => !before.any isWordChar,
      one fun char => char == '$' || char == ':' || char == '?',
      someOf isWordChar]),
    as .other (both (exactly '\\') (someOf isWordChar)),
    as .keyword (both
      (oneOf ["CASE", "IN", "VALUES", "USING", "FROM", "AS"]) wordEdge)]
    ++ namePatterns.map (as .other)
    ++ literalPatterns.map (as .other)
    ++ [as .keyword join,
      as .keyword blockEnd,
      as .keyword (sequence [word "IF", blanks, leading ["NOT"],
        word "EXISTS", wordEdge]),
      as .keyword (keyPhrase ["NOT", "NULL"])]
    ++ sortingPhrases.map (as .other)
    ++ [as .creation creation]
    ++ plainPhrases.map (as .other)
    ++ [as .keyword batchCount]
    ++ longPhrases.map (as .other)
    ++ [⟨wordRole, both (one isWordChar)
        (run fun char => isWordChar char || char == '$' || char == '#')⟩,
      as .punctuation (one (";:()[],." : Text).contains)]
    ++ operatorPatterns.map (as .other)

/-- Characters up to the end of the first occurrence of `closer`. -/
def lengthThrough? (closer : Text) : Text → Option Nat
  | [] => if closer.isEmpty then some 0 else none
  | char :: rest =>
      if closer.isPrefixOf (char :: rest) then some closer.length
      else (lengthThrough? closer rest).map (· + 1)

/-- The mark that opens a dollar-quoted piece: two dollar signs with a name or
nothing between them, after no word character, quote or dollar sign. -/
def dollarMark : Pattern :=
  sequence [
    isBefore fun before =>
      !before.any fun char => isWordChar char || char == '"' || char == '$',
    exactly '$',
    optional (both (one fun char => char == '_' || isNameStart char)
      (run isWordChar)),
    exactly '$']

/-- A piece between two marks, the comment marks or two equal dollar marks.  It
is a part as a whole, whatever stands inside. -/
def delimited? (cursor : Cursor) : Option (Role × Nat) :=
  match cursor.ahead with
  | .of '/' :: .of '*' :: .of '+' :: rest =>
      (lengthThrough? "*/" rest).map fun length => (.other, length + 3)
  | .of '/' :: .of '*' :: rest =>
      (lengthThrough? "*/" rest).map fun length =>
        (.blockComment, length + 2)
  | text =>
      match dollarMark.length? cursor with
      | some mark =>
          (lengthThrough? (text.take mark) (text.drop mark)).map fun length =>
            (.other, length + mark)
      | none => none

/-- The role and the length of the part that begins at the cursor.  What no
rule matches is a part of one character. -/
def first (cursor : Cursor) : Role × Nat :=
  match delimited? cursor with
  | some found => found
  | none =>
      let matched := rules.findSome? fun rule =>
        (rule.pattern.length? cursor).map fun length =>
          (rule.role (cursor.ahead.take length), length)
      matched.getD (.other, 1)

/-- The parts of the text `ahead`, which follows the character `before`. -/
def partsFrom (before : Option Character) (ahead : Text) : List Part :=
  match ahead with
  | [] => []
  | char :: rest =>
      let (role, length) := first ⟨0, before, char :: rest⟩
      let text := char :: rest.take (length - 1)
      ⟨role, text⟩ :: partsFrom text.getLast? (rest.drop (length - 1))
termination_by ahead.length
decreasing_by
  simp only [List.length_drop, List.length_cons]
  omega

def parts (script : Text) : List Part := partsFrom none script

theorem flatMap_partsFrom (before : Option Character) (ahead : Text) :
    (partsFrom before ahead).flatMap Part.text = ahead := by
  induction before, ahead using partsFrom.induct with
  | case1 => simp [partsFrom]
  | case2 before char rest role length found text induction =>
      rw [partsFrom]
      simp only [found, List.flatMap_cons]
      rw [induction]
      simp

/-- The parts of a script, put together again, are the script. -/
theorem flatMap_parts (script : Text) :
    (parts script).flatMap Part.text = script :=
  flatMap_partsFrom none script

end Script

end SchemaSheet
