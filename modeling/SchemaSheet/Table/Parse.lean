import SchemaSheet.Event
import SchemaSheet.Fault
import SchemaSheet.Script.Splitter
import SchemaSheet.Table.Block
import SchemaSheet.Table.Declaration
import SchemaSheet.Text.Blank

/-!
# Tables from scripts

The first statement of a script that has the header of a table describes that
table.  `Survey` is what is known once the columns are delimited; from it come
both the table and the entries of the journal.
-/

namespace SchemaSheet

/-- Why a script describes no table. -/
inductive ParseFault where
  | emptyInput
  | tableNameNotFound
  /-- The parenthesis at `offset` of its statement is not closed; `depth`
  parentheses are open at the end. -/
  | columnBlockNotFound (offset depth : Nat)
  | noColumnsParsed (table : Text) (candidates : Nat)
  deriving DecidableEq, Repr

namespace ParseFault

def fault : ParseFault → Fault
  | emptyInput => .emptyInput Fault.emptyInputMessage
  | tableNameNotFound => .tableNameNotFound Fault.tableNameMessage
  | columnBlockNotFound offset depth =>
      .columnBlockNotFound Fault.columnBlockMessage (some offset) (some depth)
  | noColumnsParsed table candidates =>
      .noColumnsParsed Fault.noColumnsMessage (some table)
        (some candidates)

end ParseFault

/-- A statement with its tokens and the header of a table in it. -/
structure Located where
  statement : Text
  tokens : List Token
  header : Header

namespace Located

/-- The statement, if it has a header. -/
def ofStatement? (statement : Text) : Option Located :=
  let tokens := Token.stream statement
  (Header.find? tokens).map fun header => ⟨statement, tokens, header⟩

/-- The first statement of a script that has a header. -/
def find? [Splitter] (script : Text) : Option Located :=
  (Splitter.statements script).findSome? ofStatement?

end Located

/-- What a declaration turned out to be. -/
inductive Verdict where
  | clause (line : Nat)
  | unrecognised (line : Nat) (text : Text)
  | column (column : Column)
  deriving DecidableEq

def Verdict.on (openings : List Opening) (statement : Text)
    (declaration : List Token) : Verdict :=
  let line := (declaration.head?.map fun token => token.place.line).getD 0
  let text := (declaration.head?.map Token.text).getD []
  if Declaration.isClause openings declaration then .clause line
  else
    match Declaration.column? statement declaration with
    | some found => .column found
    | none => .unrecognised line text

def Verdict.column? : Verdict → Option Column
  | .column found => some found
  | _ => none

/-- The entry of the journal, if the declaration is no column. -/
def Verdict.event? : Verdict → Option Event
  | .clause line => some (.clauseSkipped line)
  | .unrecognised line text => some (.declarationSkipped line text)
  | .column _ => none

/-- A table whose columns are delimited, with a verdict on each declaration. -/
structure Survey where
  header : Header
  closing : Nat
  verdicts : List Verdict

namespace Survey

def ofLocated (openings : List Opening) (located : Located) :
    Except ParseFault Survey :=
  let opening := located.header.opening
  match Block.closeOf located.tokens opening with
  | .error depth =>
      let offset := (located.tokens[opening]?.map Token.offset).getD 0
      .error (.columnBlockNotFound offset depth)
  | .ok closing =>
      let block := Block.between located.tokens opening closing
      .ok
        { header := located.header
          closing
          verdicts := (Block.declarations block).map
            (Verdict.on openings located.statement) }

def ofScript [Splitter] (openings : List Opening) (script : Option Text) :
    Except ParseFault Survey :=
  match script with
  | none => .error .emptyInput
  | some script =>
      if Text.isBlankText script then .error .emptyInput
      else
        match Located.find? script with
        | none => .error .tableNameNotFound
        | some located => ofLocated openings located

def columns (survey : Survey) : List Column :=
  survey.verdicts.filterMap Verdict.column?

def table (survey : Survey) : Except ParseFault Table :=
  match survey.columns with
  | [] =>
      .error (.noColumnsParsed survey.header.name.text survey.verdicts.length)
  | column :: others =>
      .ok
        { name := survey.header.name.text
          columns := column :: others
          schema := survey.header.schema
          name_ne_nil := survey.header.name.text_ne_nil
          columns_ne_nil := List.cons_ne_nil _ _ }

/-- The entries of the journal about the table. -/
def events (survey : Survey) : List Event :=
  let name := survey.header.name.text
  let count := survey.columns.length
  .blockFound name survey.header.opening survey.closing
    :: survey.verdicts.filterMap Verdict.event?
    ++ (if count = 0 then [] else [.columnsParsed count name])

end Survey

namespace Table

def parse [Splitter] (openings : List Opening) (script : Option Text) :
    Except ParseFault Table :=
  (Survey.ofScript openings script).bind Survey.table

/-- What the journal notes about the reading of a script. -/
def parseEvents [Splitter] (openings : List Opening) (script : Option Text) :
    List Event :=
  match Survey.ofScript openings script with
  | .ok survey => survey.events
  | .error _ => []

end Table

end SchemaSheet
