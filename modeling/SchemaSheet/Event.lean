import SchemaSheet.Text.Basic

/-!
# The journal

What the program notes about its work: events with a level, a template and the
arguments that belong into the template.
-/

namespace SchemaSheet

/-- How much an event matters. -/
inductive Level where
  | debug
  | info
  deriving DecidableEq, Repr

/-- An argument of a journal entry. -/
inductive Argument where
  | number (value : Nat)
  | text (value : Text)
  deriving DecidableEq, Repr

/-- An event of the program's work. -/
inductive Event where
  /-- The columns of a table stand between two tokens. -/
  | blockFound (table : Text) (first last : Nat)
  | clauseSkipped (line : Nat)
  /-- A declaration that begins with `text` is neither. -/
  | declarationSkipped (line : Nat) (text : Text)
  | columnsParsed (count : Nat) (table : Text)
  | textWritten (length : Nat) (path : Text)
  | tableDelivered (table : Text) (columns : Nat) (sink : Text)
  | transferFailed (code : Text)
  deriving DecidableEq, Repr

namespace Event

def level : Event → Level
  | tableDelivered .. | transferFailed .. => .info
  | _ => .debug

/-- The wording of the event, with marks where the arguments belong. -/
def template : Event → String
  | blockFound .. => "Table %s: column block at tokens %d..%d"
  | clauseSkipped .. => "Skipping structural clause at line %d"
  | declarationSkipped .. =>
      "Skipping unrecognised declaration at line %d: %r"
  | columnsParsed .. => "Parsed %d columns of %s"
  | textWritten .. => "Wrote %d characters to %s"
  | tableDelivered .. => "Transformed table %s (%d columns) -> %s"
  | transferFailed .. => "Transfer failed: %s"

/-- The arguments of the event, in the order of their marks. -/
def arguments : Event → List Argument
  | blockFound table first last =>
      [.text table, .number first, .number last]
  | clauseSkipped line => [.number line]
  | declarationSkipped line text => [.number line, .text text]
  | columnsParsed count table => [.number count, .text table]
  | textWritten length path => [.number length, .text path]
  | tableDelivered table columns sink =>
      [.text table, .number columns, .text sink]
  | transferFailed code => [.text code]

end Event

end SchemaSheet
