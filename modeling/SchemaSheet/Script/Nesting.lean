import SchemaSheet.Script.Part

/-!
# Nesting of blocks in a script

A semicolon ends a statement only outside parentheses and outside blocks of
statements.  This module keeps the account of the blocks that are open.
-/

namespace SchemaSheet

namespace Script

inductive Block where
  | declaration
  | body
  | condition
  | choice
  | forLoop
  | whileLoop
  | loop
  deriving DecidableEq, Repr

/-- What is open at a point of a script. -/
structure Nesting where
  /-- Parentheses and blocks that are open, less the ones closed too often. -/
  depth : Int
  /-- The open blocks, the innermost first. -/
  blocks : List Block
  /-- A loop that has been announced and not begun. -/
  announced : Option Block
  /-- The statement creates something. -/
  creates : Bool
  /-- The last part that counts was the word that begins a body. -/
  afterBegin : Bool
  deriving DecidableEq, Repr

namespace Nesting

/-- Nothing is open. -/
def none : Nesting := ⟨0, [], .none, false, false⟩

def push (nesting : Nesting) (block : Block) : Nesting :=
  { nesting with
    depth := nesting.depth + 1
    blocks := block :: nesting.blocks }

/-- Closes the innermost block, if one is open, and counts down in any case. -/
def pop (nesting : Nesting) : Nesting :=
  { nesting with
    depth := nesting.depth - 1
    blocks := nesting.blocks.tail }

/-- Closes the innermost block if it is of one of the kinds. -/
def popOne (nesting : Nesting) (kinds : List Block) : Nesting :=
  match nesting.blocks with
  | block :: _ => if kinds.contains block then nesting.pop else nesting
  | [] => nesting

/-- After a semicolon.  A body that has just begun was no body: the word began
a transaction. -/
def semicolon (nesting : Nesting) : Nesting :=
  let settled := { nesting with announced := .none, afterBegin := false }
  if nesting.afterBegin then settled.popOne [.body] else settled

/-- After the word that begins a body.  Declarations turn into the body that
they precede. -/
def begin (nesting : Nesting) : Nesting :=
  match nesting.blocks with
  | .declaration :: outer =>
      { nesting with blocks := .body :: outer, afterBegin := true }
  | _ => { nesting.push .body with afterBegin := true }

/-- Words after which a body that has just begun was none. -/
def transactionWords : List Text :=
  ["TRANSACTION", "WORK", "DEFERRED", "IMMEDIATE", "EXCLUSIVE"]

/-- The words that end a block, with the kinds of blocks that they end. -/
def closers : List (Text × List Block) :=
  [("END IF", [.condition]), ("END FOR", [.forLoop]),
    ("END WHILE", [.whileLoop]), ("END CASE", [.choice]),
    ("END LOOP", [.loop, .forLoop, .whileLoop])]

/-- After a keyword that ends a block, or that means nothing here. -/
def closing (nesting : Nesting) (keyword : Text) : Nesting :=
  if keyword = "END" then nesting.pop
  else
    match closers.lookup keyword with
    | some kinds => nesting.popOne kinds
    | .none => nesting

/-- After a keyword inside a body. -/
def inside (nesting : Nesting) (keyword : Text) : Nesting :=
  if keyword = "FOR" then { nesting with announced := some .forLoop }
  else if keyword = "WHILE" then
    { nesting with announced := some .whileLoop }
  else if keyword = "LOOP" ∨ keyword = "DO" then
    match nesting.announced with
    | some block => { nesting.push block with announced := .none }
    | .none =>
        if keyword = "LOOP" then nesting.push .loop else nesting
  else if keyword = "IF" then nesting.push .condition
  else if keyword = "CASE" then nesting.push .choice
  else nesting.closing keyword

/-- After a keyword, given in upper case. -/
def keyword (nesting : Nesting) (keyword : Text) : Nesting :=
  if keyword = "DECLARE" ∧ nesting.creates ∧ nesting.blocks = [] then
    nesting.push .declaration
  else if keyword = "BEGIN" then nesting.begin
  else if nesting.afterBegin ∧ transactionWords.contains keyword then
    { nesting.popOne [.body] with afterBegin := false }
  else if nesting.blocks.contains .body then nesting.inside keyword
  else nesting.closing keyword

/-- After a part of the script. -/
def after (nesting : Nesting) (part : Part) : Nesting :=
  match part.role with
  | .punctuation =>
      if part.text = ";" then nesting.semicolon
      else if part.text = "(" then
        { nesting with depth := nesting.depth + 1 }
      else if part.text = ")" then
        { nesting with depth := nesting.depth - 1 }
      else nesting
  | .creation => { nesting with creates := true }
  | .keyword => nesting.keyword (Text.upper part.text)
  | _ => nesting

end Nesting

end Script

end SchemaSheet
