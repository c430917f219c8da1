import SchemaSheet.Text.WordChar

/-!
# Tables

The description of a table: its name, the schema it belongs to, and its
columns.  A table has a name and at least one column.
-/

namespace SchemaSheet

/-- A column of a table.  A field may be absent. -/
structure Column where
  name : Option Text
  type : Option Text
  comment : Option Text
  deriving DecidableEq, Repr

/-- A table with its columns in the order of their declarations. -/
structure Table where
  name : Text
  columns : List Column
  schema : Option Text
  name_ne_nil : name ≠ []
  columns_ne_nil : columns ≠ []
  deriving DecidableEq

/-- Why there is no such table. -/
inductive TableFault where
  | noName
  | noColumns (table : Text)
  deriving DecidableEq, Repr

namespace TableFault

def message : TableFault → Text
  | noName => "table_name must be non-empty"
  | noColumns table =>
      "table " ++ table ++ " must have at least one column"

end TableFault

namespace Table

def make (name : Option Text) (columns : List Column)
    (schema : Option Text) : Except TableFault Table :=
  match name with
  | none | some [] => .error .noName
  | some (first :: rest) =>
      match columns with
      | [] => .error (.noColumns (first :: rest))
      | column :: others =>
          .ok ⟨first :: rest, column :: others, schema,
            List.cons_ne_nil _ _, List.cons_ne_nil _ _⟩

def qualifiedName (table : Table) : Text :=
  match table.schema with
  | none | some [] => table.name
  | some schema => schema ++ .of '.' :: table.name

def columnNames (table : Table) : List (Option Text) :=
  table.columns.map Column.name

end Table

end SchemaSheet
