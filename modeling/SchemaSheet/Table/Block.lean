import SchemaSheet.Token.Stream

/-!
# The column block

The tokens between the parenthesis that opens the columns and the one that
closes it, and their division into declarations.  A declaration ends at a comma
outside parentheses and at every line break.
-/

namespace SchemaSheet

namespace Block

/-- The index of the parenthesis that closes `depth` open ones, where the first
of the tokens has the given index; or else the parentheses that stay open. -/
def close (depth index : Nat) : List Token → Except Nat Nat
  | [] => .error depth
  | token :: rest =>
      match token.kind with
      | .openParen => close (depth + 1) (index + 1) rest
      | .closeParen =>
          if depth = 1 then .ok index else close (depth - 1) (index + 1) rest
      | _ => close depth (index + 1) rest

/-- The index of the parenthesis that closes the one with the given index, or
else the parentheses that stay open. -/
def closeOf (tokens : List Token) (opening : Nat) : Except Nat Nat :=
  close 1 (opening + 1) (tokens.drop (opening + 1))

/-- The tokens strictly between two indices. -/
def between (tokens : List Token) (opening closing : Nat) : List Token :=
  (tokens.take closing).drop (opening + 1)

/-- How a token changes the depth of parentheses. -/
def step (token : Token) : Int :=
  match token.kind with
  | .openParen => 1
  | .closeParen => -1
  | _ => 0

/-- Does the token end a declaration at the given depth? -/
def separates (depth : Int) (token : Token) : Bool :=
  token.kind == .lineBreak || (token.kind == .comma && depth == 0)

/-- The pieces between the tokens that end declarations, empty ones included.
There is always a first piece. -/
def pieces (depth : Int) : List Token → List Token × List (List Token)
  | [] => ([], [])
  | token :: rest =>
      if separates depth token then
        let (first, others) := pieces depth rest
        ([], first :: others)
      else
        let (first, others) := pieces (depth + step token) rest
        (token :: first, others)

def declarations (block : List Token) : List (List Token) :=
  let (first, others) := pieces 0 block
  (first :: others).filter fun piece => !piece.isEmpty

end Block

end SchemaSheet
