import SchemaSheet.Table.Basic
import SchemaSheet.Table.Header

/-!
# Declarations

A declaration is a clause of the table, such as a key, or it declares a column:
a name, a type with its parameters, and somewhere behind the type a comment.
-/

namespace SchemaSheet

/-- The words that a clause of a table begins with, in upper case. -/
abbrev Opening := List Text

namespace Opening

/-- The openings of clauses that every table may have. -/
def standard : List Opening :=
  [["PRIMARY", "KEY"], ["KEY"], ["INDEX"], ["UNIQUE"], ["CONSTRAINT"],
    ["FOREIGN", "KEY"], ["PARTITIONED", "BY"], ["FULLTEXT"], ["SPATIAL"],
    ["CHECK"]]

def opens : Opening → List Token → Bool
  | [], _ => true
  | _ :: _, [] => false
  | word :: words, token :: tokens => token.isThe word && opens words tokens

end Opening

namespace Declaration

def isClause (openings : List Opening) (declaration : List Token) : Bool :=
  openings.any fun opening => Opening.opens opening declaration

/-- Names that are never names of columns, in upper case. -/
def reservedNames : List Text :=
  ["PRIMARY", "KEY", "INDEX", "UNIQUE", "CONSTRAINT", "PARTITIONED"]

/-- The token that closes `depth` open parentheses, and the tokens after it. -/
def closing? (depth : Nat) : List Token → Option (Token × List Token)
  | [] => none
  | token :: rest =>
      match token.kind with
      | .openParen => closing? (depth + 1) rest
      | .closeParen =>
          if depth = 1 then some (token, rest) else closing? (depth - 1) rest
      | _ => closing? depth rest

/-- The last token of a type that begins with the given token, and the tokens
after the type.  Parameters belong to a type if they are closed. -/
def typeEnd (type : Token) (rest : List Token) : Token × List Token :=
  match rest with
  | [] => (type, [])
  | next :: later =>
      if next.kind = .openParen then
        (closing? 1 later).getD (type, next :: later)
      else (type, next :: later)

/-- The content of the first text that follows the word `COMMENT`. -/
def comment : List Token → Text
  | word :: text :: rest =>
      if word.isThe "COMMENT" && text.isText then text.content
      else comment (text :: rest)
  | _ => []

/-- A piece of a text. -/
def slice (text : Text) (start stop : Nat) : Text :=
  (text.drop start).take (stop - start)

def column? (statement : Text) : List Token → Option Column
  | name :: type :: rest =>
      match name.plainName? with
      | none => none
      | some plain =>
          if !type.isWord || reservedNames.contains (Text.upper plain.text) then
            none
          else
            let (last, rest) := typeEnd type rest
            some
              { name := some plain.text
                type := some
                  (Text.upper (slice statement type.offset last.stop))
                comment := some (comment rest) }
  | _ => none

end Declaration

end SchemaSheet
