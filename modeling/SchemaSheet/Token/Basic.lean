import SchemaSheet.Text.Uppercase
import SchemaSheet.Text.WordChar

/-!
# Tokens

A token is a piece of a statement with its kind and its place.  Words are
compared in upper case, and only when they are not quoted; a quoted token has a
content, which is its text without the quotes.
-/

namespace SchemaSheet

/-- The kinds of lexemes.  Blanks and comments never become tokens. -/
inductive Kind where
  | word
  | quotedName
  | quotedText
  | number
  | operator
  | comma
  | dot
  | semicolon
  | openParen
  | closeParen
  | blank
  | lineBreak
  | comment
  | endOfText
  deriving DecidableEq, Repr

/-- A place in a text: line and column from one, characters before it. -/
structure Place where
  line : Nat
  column : Nat
  offset : Nat
  deriving DecidableEq, Repr

def Place.start : Place := ⟨1, 1, 0⟩

/-- A piece of a text with its kind and the place where it begins. -/
structure Token where
  kind : Kind
  text : Text
  place : Place
  deriving DecidableEq, Repr

/-- The quote of names in the dialect that also quotes texts by `"`. -/
def backquote : Character := '\x60'

def isQuote (char : Character) : Bool :=
  char == backquote || char == '"' || char == '\''

namespace Text

/-- Every occurrence of `first` followed by `second` becomes `char`.
Occurrences are found from the left and do not overlap. -/
def replacePair (first second char : Character) : Text → Text
  | left :: right :: rest =>
      if left = first ∧ right = second then
        char :: replacePair first second char rest
      else left :: replacePair first second char (right :: rest)
  | rest => rest

/-- The content of a quoted body: doubled quotes become single, and then, but
for names in backquotes, a backslash before a quote disappears. -/
def unescape (quote : Character) (body : Text) : Text :=
  let single := replacePair quote quote quote body
  if quote = backquote then single else replacePair '\\' quote quote single

/-- The text without its quotes, if it begins and ends with the same quote, and
the text itself otherwise. -/
def unquote : Text → Text
  | [] => []
  | quote :: body =>
      if isQuote quote ∧ body.getLast? = some quote then
        unescape quote body.dropLast
      else quote :: body

end Text

namespace Token

def offset (token : Token) : Nat := token.place.offset

/-- Where the token ends: the place of the character after it. -/
def stop (token : Token) : Nat := token.offset + token.text.length

def upper (token : Token) : Text := Text.upper token.text

def isWord (token : Token) : Bool := token.kind == .word

/-- The token is one of the given words, whatever its case.  The words are
given in upper case. -/
def isAnyOf (token : Token) (words : List Text) : Bool :=
  token.isWord && words.contains token.upper

/-- The token is the given word, whatever its case. -/
def isThe (token : Token) (word : Text) : Bool :=
  token.isWord && token.upper == word

/-- The token may name something: a word, or anything in `"` or backquotes. -/
def isName (token : Token) : Bool :=
  token.kind == .word || token.kind == .quotedName

/-- The token is a literal text.  Texts may be written in `"` as well. -/
def isText (token : Token) : Bool :=
  token.kind == .quotedText
    || (token.kind == .quotedName && token.text.head? == some (.of '"'))

def content (token : Token) : Text := Text.unquote token.text

end Token

end SchemaSheet
