import SchemaSheet.Token.Stream

/-!
# The header of a table

`CREATE`, optionally `OR REPLACE`, optionally one modifier, `TABLE`, optionally
`IF NOT EXISTS`, names joined by points, and the parenthesis that opens the
columns.  Line breaks between these tokens do not matter.
-/

namespace SchemaSheet

/-- A name of word characters. -/
structure PlainName where
  text : Text
  plain : Text.isPlainName text = true
  deriving DecidableEq, Repr

theorem PlainName.text_ne_nil (name : PlainName) : name.text ≠ [] := by
  have plain := name.plain
  intro empty
  simp [Text.isPlainName, empty] at plain

/-- The header of a table: the names in front of its name, its name, and the
index of the token that opens the columns. -/
structure Header where
  qualifiers : List PlainName
  name : PlainName
  opening : Nat
  deriving DecidableEq, Repr

abbrev IndexedToken := Token × Nat

namespace Token

def plainName? (token : Token) : Option PlainName :=
  if token.isName then
    if plain : Text.isPlainName token.content = true then
      some ⟨token.content, plain⟩
    else none
  else none

end Token

namespace Header

/-- The schema: the names in front, joined by points. -/
def schema (header : Header) : Option Text :=
  if header.qualifiers.isEmpty then none
  else some (("." : Text).intercalate (header.qualifiers.map PlainName.text))

/-- Words that may stand between `CREATE` and `TABLE`. -/
def modifiers : List Text :=
  ["TEMPORARY", "TEMP", "EXTERNAL", "GLOBAL", "LOCAL", "UNLOGGED"]

/-- The tokens without line breaks, with their indices in the whole list. -/
def significant (tokens : List Token) : List IndexedToken :=
  tokens.zipIdx.filter fun token => token.1.kind != .lineBreak

/-- Passes `OR REPLACE`, if it is next. -/
def skipReplacement : List IndexedToken → List IndexedToken
  | first :: second :: rest =>
      if first.1.isThe "OR" && second.1.isThe "REPLACE" then rest
      else first :: second :: rest
  | tokens => tokens

def skipModifier : List IndexedToken → List IndexedToken
  | first :: rest => if first.1.isAnyOf modifiers then rest else first :: rest
  | [] => []

def pass? (word : Text) : List IndexedToken → Option (List IndexedToken)
  | first :: rest => if first.1.isThe word then some rest else none
  | [] => none

/-- Passes `IF NOT EXISTS`, if it is next. -/
def skipCondition : List IndexedToken → List IndexedToken
  | first :: second :: third :: rest =>
      if first.1.isThe "IF" && second.1.isThe "NOT"
          && third.1.isThe "EXISTS" then rest
      else first :: second :: third :: rest
  | tokens => tokens

/-- Names joined by points, up to the opening parenthesis. -/
def names? : List IndexedToken → Option Header
  | first :: next :: rest =>
      match first.1.plainName? with
      | none => none
      | some name =>
          if next.1.kind = .dot then
            (names? rest).map fun header =>
              { header with qualifiers := name :: header.qualifiers }
          else if next.1.kind = .openParen then some ⟨[], name, next.2⟩
          else none
  | _ => none

/-- The header whose tokens follow `CREATE`. -/
def afterCreate? (tokens : List IndexedToken) : Option Header := do
  let rest ← pass? "TABLE" (skipModifier (skipReplacement tokens))
  names? (skipCondition rest)

/-- The first header among tokens without line breaks. -/
def first? : List IndexedToken → Option Header
  | [] => none
  | token :: rest =>
      if token.1.isThe "CREATE" then
        (afterCreate? rest).orElse fun _ => first? rest
      else first? rest

/-- The first header among the tokens of a statement. -/
def find? (tokens : List Token) : Option Header :=
  first? (significant tokens)

end Header

end SchemaSheet
