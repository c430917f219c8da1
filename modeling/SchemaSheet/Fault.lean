import SchemaSheet.Json.Display

/-!
# Failures

What can go wrong, as it is reported to whoever runs the program: a message, a
code, and details.  `Fault.report` is the one place where codes and details are
worded.
-/

namespace SchemaSheet

/-- A failure of the program, with what is known about it. -/
inductive Fault where
  | general (message code : Text) (details : Members)
  | parsing (message : Text) (fragment : Option Text)
      (position : Option Int)
  | emptyInput (message : Text)
  /-- No statement names a table to create. -/
  | tableNameNotFound (message : Text)
  /-- The parenthesis that opens the columns is never closed. -/
  | columnBlockNotFound (message : Text) (position depth : Option Int)
  | noColumnsParsed (message : Text) (table : Option Text)
      (candidates : Option Int)
  | transfer (message : Text) (target operation : Option Text)
  | inputRead (message : Text) (target : Option Text)
  | outputWrite (message : Text) (target : Option Text)
  /-- There is no earlier result to deliver again. -/
  | noResult (message : Text)
  /-- The settings cannot be used. -/
  | configuration (message : Text) (key value : Option Text)
  /-- A failure that the program does not know, named by its kind. -/
  | foreign (kind : String) (message : Text)
  deriving BEq, Repr

structure Report where
  message : Text
  code : Text
  details : Members
  deriving BEq, Repr

namespace Fault

def unknownCode : Text := "UNKNOWN"

def emptyInputMessage : Text := "input is empty"

def tableNameMessage : Text := "table name not found"

def columnBlockMessage : Text := "column block not found"

/-- The usual message of a column block without columns. -/
def noColumnsMessage : Text := "no columns parsed"

def noResultMessage : Text := "no result to copy"

def textDetail (name : Text) (value : Option Text) : Members :=
  match value with
  | some text => if text.isEmpty then [] else [(name, .text text)]
  | none => []

def numberDetail (name : Text) (value : Option Int) : Members :=
  match value with
  | some number => [(name, .integer number)]
  | none => []

/-- What a transfer was about to do. -/
def operationDetail (operation : Text) : Members :=
  [("operation", .text operation)]

def message : Fault → Text
  | general message _ _ | parsing message _ _ | emptyInput message
  | tableNameNotFound message | columnBlockNotFound message _ _
  | noColumnsParsed message _ _ | transfer message _ _
  | inputRead message _ | outputWrite message _ | noResult message
  | configuration message _ _ | foreign _ message => message

def code : Fault → Text
  | general _ code _ => code
  | parsing .. => "PARSING_ERROR"
  | emptyInput .. => "EMPTY_INPUT"
  | tableNameNotFound .. => "TABLE_NAME_NOT_FOUND"
  | columnBlockNotFound .. => "COLUMN_BLOCK_NOT_FOUND"
  | noColumnsParsed .. => "NO_COLUMNS_PARSED"
  | transfer .. => "TRANSFER_ERROR"
  | inputRead .. => "INPUT_READ_ERROR"
  | outputWrite .. => "OUTPUT_WRITE_ERROR"
  | noResult .. => "NO_RESULT"
  | configuration .. => "CONFIGURATION_ERROR"
  | foreign .. => "UNKNOWN_ERROR"

def details : Fault → Members
  | general _ _ details => details
  | parsing _ fragment position =>
      textDetail "sql_fragment" fragment ++ numberDetail "position" position
  | emptyInput _ | tableNameNotFound _ => []
  | columnBlockNotFound _ position depth =>
      numberDetail "position" position ++ numberDetail "unclosed_depth" depth
  | noColumnsParsed _ table candidates =>
      textDetail "table_name" table ++ numberDetail "candidates" candidates
  | transfer _ target operation =>
      textDetail "target" target ++ textDetail "operation" operation
  | inputRead _ target =>
      textDetail "target" target ++ operationDetail "read"
  | outputWrite _ target =>
      textDetail "target" target ++ operationDetail "write"
  | noResult _ => operationDetail "copy"
  | configuration _ key value =>
      textDetail "config_key" key ++ textDetail "config_value" value
  | foreign kind _ => [("exception_type", .text (.ofString kind))]

/-- A value as the message of a failure: a text as it is, any other value as it
is shown. -/
def plainText : Json → Text
  | .text text => text
  | value => value.display

/-- The kind of a failure to find a key, which is shown as a value. -/
def keyKind : String := "KeyError"

/-- A failure of another kind with the arguments that it was raised with. -/
def ofArguments (kind : String) : List Json → Fault
  | [] => .foreign kind ""
  | [argument] =>
      .foreign kind
        (if kind = keyKind then argument.display else plainText argument)
  | arguments =>
      .foreign kind
        ("(" ++ Text.listed (arguments.map Json.display) ++ ")")

def report (fault : Fault) : Report :=
  ⟨fault.message, fault.code, fault.details⟩

/-- The failure in one line: its code and its message, or only the message of a
failure that the program does not know. -/
def text : Fault → Text
  | foreign _ message => message
  | fault => "[" ++ fault.code ++ "] " ++ fault.message

/-- The failure is about understanding a text. -/
def isParsing : Fault → Bool
  | parsing .. | emptyInput .. | tableNameNotFound .. | columnBlockNotFound ..
  | noColumnsParsed .. => true
  | _ => false

/-- The failure is about moving a text. -/
def isTransfer : Fault → Bool
  | transfer .. | inputRead .. | outputWrite .. | noResult .. => true
  | _ => false

end Fault

end SchemaSheet
