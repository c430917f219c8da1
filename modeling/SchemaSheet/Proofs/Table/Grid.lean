import SchemaSheet.Proofs.Table.Outcome
import SchemaSheet.Proofs.Token.Starter
import SchemaSheet.Script.Statement
import SchemaSheet.Settings

/-!
# Listings as grids

A listing with sanitized fields can be read again: line feeds divide it into
lines and tabs divide its lines into cells, whatever the fields of the table
are.  So a listing tells of a table neither more nor less than its cells, and
of a table that has been read from a script it tells the names as they are.
-/

namespace SchemaSheet

theorem Text.mem_intercalate {char : Character} {between : Text}
    {texts : List Text} (member : char ∈ between.intercalate texts) :
    char ∈ between ∨ ∃ text ∈ texts, char ∈ text := by
  induction texts with
  | nil => exact absurd member List.not_mem_nil
  | cons first rest induction =>
      cases rest with
      | nil => exact .inr ⟨first, List.mem_cons_self, by simpa using member⟩
      | cons second later =>
          rw [List.intercalate_cons_cons, List.append_assoc,
            List.mem_append, List.mem_append] at member
          rcases member with here | parted | behind
          · exact .inr ⟨first, List.mem_cons_self, here⟩
          · exact .inl parted
          · rcases induction behind with parted | ⟨text, listed, inside⟩
            · exact .inl parted
            · exact .inr ⟨text, List.mem_cons_of_mem _ listed, inside⟩

namespace Listing

/-- The text of a cell: a field without what would break it, and nothing where
the field is absent. -/
def cell (value : Option Text) : Text := sanitize (value.getD [])

/-- The cells of a column. -/
def cells (column : Column) : List Text :=
  [cell column.name, cell column.type, cell column.comment]

/-- The lines of a text, divided at its line feeds. -/
def readLines (text : Text) : List Text := text.splitOn (.of '\n')

/-- The cells of a line, divided at its tabs. -/
def readCells (line : Text) : List Text := line.splitOn (.of '\t')

theorem isBreak_of_mem_sanitizeFrom {inside : Bool} {text : Text}
    {char : Character} (member : char ∈ sanitizeFrom inside text) :
    isBreak char = false := by
  induction text generalizing inside with
  | nil => exact absurd member List.not_mem_nil
  | cons first rest induction =>
      rw [sanitizeFrom] at member
      split at member
      · split at member
        · exact induction member
        · rcases List.mem_cons.mp member with rfl | later
          · decide
          · exact induction later
      · next kept =>
          rcases List.mem_cons.mp member with rfl | later
          · simpa using kept
          · exact induction later

theorem isBreak_of_mem_cell {value : Option Text} {char : Character}
    (member : char ∈ cell value) : isBreak char = false :=
  isBreak_of_mem_sanitizeFrom member

theorem sanitizeFrom_of_unbroken {text : Text}
    (unbroken : ∀ char ∈ text, isBreak char = false) (inside : Bool) :
    sanitizeFrom inside text = text := by
  induction text generalizing inside with
  | nil => rfl
  | cons first rest induction =>
      have kept := unbroken first List.mem_cons_self
      have later := induction
        (fun char member => unbroken char (List.mem_cons_of_mem _ member)) false
      simp only [sanitizeFrom, kept, Bool.false_eq_true, if_false, later]

theorem isWordChar_of_isBreak {char : Character}
    (breaks : isBreak char = true) : isWordChar char = false := by
  simp only [isBreak, Bool.or_eq_true, beq_iff_eq] at breaks
  apply Lexeme.Starter.isWordChar_of_mem_marks
  rcases breaks with (rfl | rfl) | rfl <;> decide

theorem sanitize_of_isPlainName {name : Text}
    (plain : Text.isPlainName name = true) : sanitize name = name := by
  apply sanitizeFrom_of_unbroken
  intro char member
  rw [Text.isPlainName, Bool.and_eq_true] at plain
  have word := List.all_eq_true.mp plain.2 char member
  apply Bool.eq_false_iff.mpr
  intro breaks
  rw [isWordChar_of_isBreak breaks] at word
  cases word

section Sanitized

variable {style : ListingStyle}

theorem field_eq_cell (sanitizes : style.sanitize = true)
    (value : Option Text) : field style value = cell value := by
  rw [field, sanitizes]
  rfl

theorem row_eq (sanitizes : style.sanitize = true)
    (fields : List (Option Text)) :
    row style fields = [.of '\t'].intercalate (fields.map cell) := by
  have same : field style = cell := funext (field_eq_cell sanitizes)
  rw [row, same]
  rfl

theorem readCells_row (sanitizes : style.sanitize = true)
    {fields : List (Option Text)} (nonempty : fields ≠ []) :
    readCells (row style fields) = fields.map cell := by
  rw [row_eq sanitizes]
  apply List.splitOn_intercalate
  · intro text listed tabbed
    obtain ⟨value, -, rfl⟩ := List.mem_map.mp listed
    exact absurd (isBreak_of_mem_cell tabbed) (by decide)
  · simpa using nonempty

/-- The only characters of a row that break anything are tabs. -/
theorem eq_tab_of_mem_row (sanitizes : style.sanitize = true)
    {fields : List (Option Text)} {char : Character}
    (member : char ∈ row style fields) (breaks : isBreak char = true) :
    char = .of '\t' := by
  rw [row_eq sanitizes] at member
  rcases Text.mem_intercalate member with tab | ⟨text, listed, inside⟩
  · exact List.mem_singleton.mp tab
  · obtain ⟨value, -, rfl⟩ := List.mem_map.mp listed
    rw [isBreak_of_mem_cell inside] at breaks
    exact nomatch breaks

/-- The lines behind the name of a table. -/
def rows (style : ListingStyle) (table : Table) : List Text :=
  (if style.titles then [row style titles] else [])
    ++ table.columns.map fun column => row style (fieldsOf column)

theorem lines_eq (sanitizes : style.sanitize = true) (table : Table) :
    lines style table = sanitize table.name :: rows style table := by
  rw [lines, field_eq_cell sanitizes]
  rfl

theorem eq_tab_of_mem_lines (sanitizes : style.sanitize = true)
    {table : Table} {line : Text} {char : Character}
    (listed : line ∈ lines style table) (member : char ∈ line)
    (breaks : isBreak char = true) : char = .of '\t' := by
  rw [lines_eq sanitizes, rows] at listed
  rcases List.mem_cons.mp listed with rfl | behind
  · rw [isBreak_of_mem_sanitizeFrom member] at breaks
    exact nomatch breaks
  · rcases List.mem_append.mp behind with title | column
    · split at title
      · rw [List.mem_singleton.mp title] at member
        exact eq_tab_of_mem_row sanitizes member breaks
      · exact absurd title List.not_mem_nil
    · obtain ⟨declared, -, rfl⟩ := List.mem_map.mp column
      exact eq_tab_of_mem_row sanitizes member breaks

theorem readLines_listing (sanitizes : style.sanitize = true)
    (table : Table) : readLines (table.listing style) = lines style table := by
  apply List.splitOn_intercalate
  · intro line listed fed
    have tab := eq_tab_of_mem_lines sanitizes listed fed (by decide)
    exact absurd tab (by decide)
  · exact List.cons_ne_nil _ _

theorem return_not_mem_listing (sanitizes : style.sanitize = true)
    (table : Table) : .of '\r' ∉ table.listing style := by
  intro returned
  rcases Text.mem_intercalate returned with feed | ⟨line, listed, inside⟩
  · exact absurd (List.mem_singleton.mp feed) (by decide)
  · have tab := eq_tab_of_mem_lines sanitizes listed inside (by decide)
    exact absurd tab (by decide)

theorem length_rows (style : ListingStyle) (table : Table) :
    (rows style table).length
      = (if style.titles then 1 else 0) + table.columns.length := by
  rw [rows, List.length_append, List.length_map]
  cases style.titles with
  | true => rfl
  | false => rfl

theorem readCells_rows (sanitizes : style.sanitize = true)
    (table : Table) :
    (rows style table).map readCells
      = (if style.titles then [titles.map cell] else [])
        ++ table.columns.map cells := by
  have titled : readCells (row style titles) = titles.map cell :=
    readCells_row sanitizes (List.cons_ne_nil _ _)
  have read : readCells ∘ (fun column => row style (fieldsOf column))
      = cells := by
    funext column
    exact readCells_row sanitizes (List.cons_ne_nil _ _)
  rw [rows, List.map_append, List.map_map, read]
  cases style.titles with
  | true => simp only [if_true, List.map_cons, List.map_nil, titled]
  | false => rfl

theorem rows_eq_rows_iff (sanitizes : style.sanitize = true)
    (table other : Table) :
    rows style table = rows style other
      ↔ table.columns.map cells = other.columns.map cells := by
  constructor
  · intro same
    have read := congrArg (List.map readCells) same
    rw [readCells_rows sanitizes, readCells_rows sanitizes] at read
    exact List.append_cancel_left read
  · intro same
    have written : (fun column => row style (fieldsOf column))
        = (fun texts : List Text => [.of '\t'].intercalate texts)
          ∘ cells := by
      funext column
      exact row_eq sanitizes _
    rw [rows, rows, written, ← List.map_map, ← List.map_map, same]

end Sanitized

end Listing

namespace Table

open Listing

/-- What is read from the listing of a table: its name, a row of titles if
there is one, and the cells of its columns in their order. -/
structure Grid (titled : Bool) (table : Table) (listing : Text) : Prop where
  count : (readLines listing).length
    = 1 + (if titled then 1 else 0) + table.columns.length
  name : (readLines listing).head? = some (sanitize table.name)
  titles : titled = true →
    (readLines listing)[1]?.map readCells = some (Listing.titles.map cell)
  columns : ((readLines listing).drop (1 + if titled then 1 else 0)).map
    readCells = table.columns.map cells
  noReturn : .of '\r' ∉ listing

theorem grid_listing {style : ListingStyle}
    (sanitizes : style.sanitize = true) (table : Table) :
    Grid style.titles table (table.listing style) := by
  have read : readLines (table.listing style)
      = sanitize table.name :: rows style table := by
    rw [readLines_listing sanitizes, lines_eq sanitizes]
  refine ⟨?_, ?_, ?_, ?_, return_not_mem_listing sanitizes table⟩
  · rw [read, List.length_cons, length_rows]
    omega
  · rw [read]
    rfl
  · intro titled
    rw [read, List.getElem?_cons_succ, rows, titled, if_pos rfl]
    exact congrArg some (readCells_row sanitizes (List.cons_ne_nil _ _))
  · rw [read, Nat.add_comm, List.drop_succ_cons, List.map_drop,
      readCells_rows sanitizes]
    cases style.titles with
    | true => rfl
    | false => rfl

/-- Two tables have one listing if and only if they have the same cells. -/
theorem listing_eq_listing_iff {style : ListingStyle}
    (sanitizes : style.sanitize = true) (table other : Table) :
    table.listing style = other.listing style
      ↔ sanitize table.name = sanitize other.name
        ∧ table.columns.map cells = other.columns.map cells := by
  rw [← rows_eq_rows_iff sanitizes]
  constructor
  · intro same
    have read := congrArg readLines same
    rw [readLines_listing sanitizes, readLines_listing sanitizes,
      lines_eq sanitizes, lines_eq sanitizes] at read
    exact List.cons.inj read
  · rintro ⟨named, listed⟩
    rw [listing, listing, lines_eq sanitizes, lines_eq sanitizes, named,
      listed]

/-- The names in a listing of a table that has been read are the names of the
table as they are. -/
theorem names_of_parse [Splitter] {openings : List Opening}
    {script : Option Text} {table : Table}
    (parsed : parse openings script = .ok table) :
    sanitize table.name = table.name
      ∧ (table.columns.map cells).map List.head? = table.columnNames := by
  obtain ⟨text, located, closing, -, first, name, columns⟩ :=
    exists_located_of_parse parsed
  constructor
  · rw [name]
    exact sanitize_of_isPlainName located.header.name.plain
  · rw [columnNames, List.map_map]
    apply List.map_congr_left
    intro column member
    rw [columns] at member
    obtain ⟨own, named, plain, -⟩ :=
      (Located.wellFormed_of_mem_columns first member).name
    rw [Function.comp_apply, cells, List.head?_cons, named, cell,
      Option.getD_some, sanitize_of_isPlainName plain]

/-- Under settings that sanitize fields, the listing of every table is read as
the cells of the table, two tables have one listing if and only if they have the
same cells, and a table that has been read from a script is listed with its
names as they are. -/
theorem listings_are_grids [Splitter] {settings : Settings}
    (sanitizes : settings.isOn Settings.sanitizeKey = true) :
    (∀ table : Table, Grid (settings.isOn Settings.titlesKey) table
      (table.listing settings.style))
      ∧ (∀ table other : Table,
        table.listing settings.style = other.listing settings.style
          ↔ sanitize table.name = sanitize other.name
            ∧ table.columns.map cells = other.columns.map cells)
      ∧ ∀ (openings : List Opening) (script : Option Text) (table : Table),
        parse openings script = .ok table →
          (readLines (table.listing settings.style)).head? = some table.name
            ∧ ((readLines (table.listing settings.style)).drop
                (1 + if settings.isOn Settings.titlesKey then 1 else 0)).map
                  (fun line => (readCells line).head?)
              = table.columnNames := by
  have styled : settings.style.sanitize = true := sanitizes
  have grid (table : Table) : Grid (settings.isOn Settings.titlesKey) table
      (table.listing settings.style) := grid_listing styled table
  refine ⟨grid, listing_eq_listing_iff styled, ?_⟩
  intro openings script table parsed
  obtain ⟨named, columnsNamed⟩ := names_of_parse parsed
  have read := grid table
  constructor
  · rw [read.name, named]
  · rw [← columnsNamed, ← read.columns, List.map_map]
    rfl

/-- A table whose fields would break lines and cells. -/
def brokenTable : Table :=
  { name := "a\tb"
    columns := [⟨some "c\n", none, some "\r\nd"⟩]
    schema := none
    name_ne_nil := List.cons_ne_nil _ _
    columns_ne_nil := List.cons_ne_nil _ _ }

/-- The breaks inside the fields do not break the grid. -/
theorem listings_are_grids_of_brokenTable :
    Settings.isOn [] Settings.sanitizeKey = true
      ∧ (readLines (brokenTable.listing (Settings.style []))).head?
        = some ("a b" : Text)
      ∧ ((readLines (brokenTable.listing (Settings.style []))).drop 1).map
          readCells
        = [[("c " : Text), [], (" d" : Text)]] := by
  have on : Settings.isOn [] Settings.sanitizeKey = true := by decide
  have grid := (listings_are_grids on).1 brokenTable
  exact ⟨on, grid.name, grid.columns⟩

end Table

end SchemaSheet
