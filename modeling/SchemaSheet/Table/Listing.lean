import SchemaSheet.Table.Basic

/-!
# Listings

A table as text for a spreadsheet: its name, optionally a row of titles, and a
row for each column, with tabs between the fields of a row and line feeds
between the lines.
-/

namespace SchemaSheet

structure ListingStyle where
  /-- Tabs and line breaks inside a field become blanks. -/
  sanitize : Bool
  /-- A row of titles follows the name. -/
  titles : Bool
  deriving DecidableEq, Repr

namespace Listing

/-- Would the character break a field or a line of a listing? -/
def isBreak (char : Character) : Bool :=
  char == '\t' || char == '\r' || char == '\n'

/-- `sanitizeFrom inside text` sanitizes `text`, which follows a character that
breaks fields if `inside` holds. -/
def sanitizeFrom (inside : Bool) : Text → Text
  | [] => []
  | char :: rest =>
      if isBreak char then
        if inside then sanitizeFrom true rest else ' ' :: sanitizeFrom true rest
      else char :: sanitizeFrom false rest

/-- The text with each run of tabs and line breaks replaced by one blank. -/
def sanitize (text : Text) : Text :=
  sanitizeFrom false text

/-- A field of a listing; an absent one is empty. -/
def field (style : ListingStyle) (value : Option Text) : Text :=
  let text := value.getD []
  if style.sanitize then sanitize text else text

def row (style : ListingStyle) (fields : List (Option Text)) : Text :=
  ("\t" : Text).intercalate (fields.map (field style))

def titles : List (Option Text) :=
  [some "name", some "type", some "comment"]

def fieldsOf (column : Column) : List (Option Text) :=
  [column.name, column.type, column.comment]

def lines (style : ListingStyle) (table : Table) : List Text :=
  field style (some table.name)
    :: (if style.titles then [row style titles] else [])
    ++ table.columns.map fun column => row style (fieldsOf column)

end Listing

namespace Table

def listing (style : ListingStyle) (table : Table) : Text :=
  ("\n" : Text).intercalate (Listing.lines style table)

end Table

end SchemaSheet
