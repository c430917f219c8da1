import SchemaSheet.Token.Lexeme

/-!
# Token streams

The tokens of a text are its lexemes with their places, without blanks and
comments, followed by one token that marks the end.  Line breaks are kept on
request.
-/

namespace SchemaSheet

namespace Place

/-- Columns of the place after a text that holds a line feed: one more than
the characters after the last line feed. -/
def columnAfter (text : Text) : Nat :=
  (text.reverse.takeWhile (· != .of '\n')).length + 1

/-- The place after a lexeme.  A line break begins a new line; elsewhere only
line feeds do. -/
def after (place : Place) (lexeme : Lexeme) : Place :=
  let offset := place.offset + lexeme.text.length
  if lexeme.kind = .lineBreak then ⟨place.line + 1, 1, offset⟩
  else
    match lexeme.text.count (.of '\n') with
    | 0 => ⟨place.line, place.column + lexeme.text.length, offset⟩
    | breaks => ⟨place.line + breaks, columnAfter lexeme.text, offset⟩

end Place

/-- Lexemes as tokens, the first of which stands at `place`, and the token that
marks the end. -/
def placed (place : Place) : List Lexeme → List Token
  | [] => [⟨.endOfText, [], place⟩]
  | lexeme :: rest =>
      ⟨lexeme.kind, lexeme.text, place⟩ :: placed (place.after lexeme) rest

namespace Kind

/-- Lexemes of these kinds never become tokens. -/
def isSkipped (kind : Kind) : Bool :=
  kind == .blank || kind == .comment

end Kind

namespace Token

/-- The tokens of a text, line breaks included. -/
def stream (text : Text) : List Token :=
  (placed .start (lexemes text)).filter fun token => !token.kind.isSkipped

def withoutBreaks (tokens : List Token) : List Token :=
  tokens.filter fun token => token.kind != .lineBreak

def tokenize (keepBreaks : Bool) (text : Text) : List Token :=
  if keepBreaks then stream text else withoutBreaks (stream text)

end Token

end SchemaSheet
