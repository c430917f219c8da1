import SchemaSheet.Proofs.Table.ColumnParts
import SchemaSheet.Proofs.Table.Location
import SchemaSheet.Proofs.Table.Occurrence

/-!
# Outcomes of reading a script

`Outcome` lists the five ways in which the reading of a script can end, each
with the condition under which it does.  `parse_classification` says that these
are the outcomes of `Table.parse`, and what holds of every table that is read.
-/

namespace SchemaSheet

namespace Located

/-- The tokens between the parentheses, where the block ends at the given
index. -/
def block (located : Located) (closing : Nat) : List Token :=
  Block.between located.tokens located.header.opening closing

/-- The column of a declaration that is no clause. -/
def columnOf? (openings : List Opening) (located : Located)
    (declaration : List Token) : Option Column :=
  if Declaration.isClause openings declaration then none
  else Declaration.column? located.statement declaration

theorem column?_on (openings : List Opening) (located : Located)
    (declaration : List Token) :
    (Verdict.on openings located.statement declaration).column?
      = located.columnOf? openings declaration := by
  unfold Verdict.on columnOf?
  split
  · rfl
  · split <;> simp [Verdict.column?, *]

theorem column?_of_columnOf? {openings : List Opening} {located : Located}
    {declaration : List Token} {column : Column}
    (made : located.columnOf? openings declaration = some column) :
    Declaration.column? located.statement declaration = some column := by
  simp only [columnOf?] at made
  split at made
  · cases made
  · exact made

/-- The columns that the block declares. -/
def columns (openings : List Opening) (located : Located) (closing : Nat) :
    List Column :=
  (Block.declarations (located.block closing)).filterMap
    (located.columnOf? openings)

theorem map_snd_noted {Note : Type} (note : List Token → Note)
    (openings : List Opening) (located : Located) (closing : Nat) :
    ((Block.declarations (located.block closing)).filterMap fun declaration =>
        (located.columnOf? openings declaration).map fun column =>
          (note declaration, column)).map Prod.snd
      = located.columns openings closing := by
  rw [columns, List.map_filterMap]
  congr 1
  funext declaration
  simp [Option.map_map, Function.comp_def]

/-- The end of the block is where its opening parenthesis is closed. -/
def Closes (located : Located) (closing : Nat) : Prop :=
  Block.Closes located.tokens located.header.opening closing

end Located

/-- How the reading of a script ends. -/
inductive Table.Outcome [Splitter] (openings : List Opening) :
    Option Text → Except ParseFault Table → Prop where
  | emptyInput {script : Option Text} (absent : Script.IsAbsent script) :
      Outcome openings script (.error .emptyInput)
  | tableNameNotFound {script : Text}
      (present : ¬Script.IsAbsent (some script))
      (headless : ∀ statement ∈ Splitter.statements script,
        Header.find? (Token.stream statement) = none) :
      Outcome openings (some script) (.error .tableNameNotFound)
  /-- The parenthesis of the header is never closed.  The failure tells where
  it stands and how many are open at the end of the statement. -/
  | columnBlockNotFound {script : Text} {located : Located} {paren : Token}
      {depth : Nat} (first : located.IsFirst script)
      (opening : located.tokens[located.header.opening]? = some paren)
      (unclosed : ∀ closing, ¬located.Closes closing)
      (remaining : (depth : Int) = Block.balance
        (located.tokens.drop located.header.opening)) :
      Outcome openings (some script)
        (.error (.columnBlockNotFound paren.offset depth))
  | noColumnsParsed {script : Text} {located : Located} {closing : Nat}
      (first : located.IsFirst script) (closed : located.Closes closing)
      (rejected : ∀ declaration ∈ Block.declarations (located.block closing),
        Declaration.isClause openings declaration = true
          ∨ Declaration.column? located.statement declaration = none) :
      Outcome openings (some script)
        (.error (.noColumnsParsed located.header.name.text
          (Block.declarations (located.block closing)).length))
  | table {script : Text} {located : Located} {closing : Nat} {table : Table}
      (first : located.IsFirst script) (closed : located.Closes closing)
      (name : table.name = located.header.name.text)
      (schema : table.schema = located.header.schema)
      (columns : table.columns = located.columns openings closing) :
      Outcome openings (some script) (.ok table)

namespace Located

theorem columns_eq_nil_iff {openings : List Opening} {located : Located}
    {closing : Nat} :
    located.columns openings closing = []
      ↔ ∀ declaration ∈ Block.declarations (located.block closing),
        Declaration.isClause openings declaration = true
          ∨ Declaration.column? located.statement declaration = none := by
  simp only [columns, List.filterMap_eq_nil_iff, columnOf?]
  constructor
  · intro none declaration member
    have found := none declaration member
    by_cases clause : Declaration.isClause openings declaration = true
    · exact .inl clause
    · rw [if_neg clause] at found
      exact .inr found
  · intro rejected declaration member
    rcases rejected declaration member with clause | none
    · rw [if_pos clause]
    · split
      · rfl
      · exact none

/-- The reading of a statement with a header. -/
def read (openings : List Opening) (located : Located) :
    Except ParseFault Table :=
  (Survey.ofLocated openings located).bind Survey.table

theorem columns_of_survey {openings : List Opening} {located : Located}
    {closing : Nat} {survey : Survey}
    (verdicts : survey.verdicts
      = (Block.declarations (located.block closing)).map
        (Verdict.on openings located.statement)) :
    survey.columns = located.columns openings closing := by
  rw [Survey.columns, verdicts, List.filterMap_map, columns]
  congr 1
  funext declaration
  exact column?_on openings located declaration

theorem IsFirst.closeOf_eq_ok_iff [Splitter] {script : Text} {located : Located}
    (first : located.IsFirst script) {closing : Nat} :
    Block.closeOf located.tokens located.header.opening = .ok closing
      ↔ located.Closes closing := by
  obtain ⟨paren, found, opens⟩ := first.opening
  exact Block.closeOf_eq_ok_iff found opens

theorem IsFirst.closeOf_eq_error_iff [Splitter] {script : Text}
    {located : Located} (first : located.IsFirst script) {depth : Nat} :
    Block.closeOf located.tokens located.header.opening = .error depth
      ↔ (∀ closing, ¬located.Closes closing)
        ∧ (depth : Int) = Block.balance
          (located.tokens.drop located.header.opening) := by
  obtain ⟨paren, found, opens⟩ := first.opening
  exact Block.closeOf_eq_error_iff found opens

theorem ofLocated_eq_ok_iff {openings : List Opening} {located : Located}
    {survey : Survey} :
    Survey.ofLocated openings located = .ok survey
      ↔ ∃ closing,
        Block.closeOf located.tokens located.header.opening = .ok closing
          ∧ survey = ⟨located.header, closing,
            (Block.declarations (located.block closing)).map
              (Verdict.on openings located.statement)⟩ := by
  cases closed : Block.closeOf located.tokens located.header.opening with
  | error depth => simp [Survey.ofLocated, closed]
  | ok closing => simp [Survey.ofLocated, closed, block, eq_comm]

theorem read_eq_of_unclosed (openings : List Opening) {located : Located}
    {depth : Nat}
    (failed : Block.closeOf located.tokens located.header.opening
      = .error depth) :
    located.read openings
      = .error (.columnBlockNotFound
        ((located.tokens[located.header.opening]?.map Token.offset).getD 0)
        depth) := by
  simp [read, Survey.ofLocated, failed, Except.bind]

theorem read_of_unclosed {openings : List Opening} {located : Located}
    {paren : Token} {depth : Nat}
    (opening : located.tokens[located.header.opening]? = some paren)
    (failed : Block.closeOf located.tokens located.header.opening
      = .error depth) :
    located.read openings
      = .error (.columnBlockNotFound paren.offset depth) := by
  rw [read_eq_of_unclosed openings failed, opening]
  rfl

theorem read_of_closed (openings : List Opening) {located : Located}
    {closing : Nat}
    (closed : Block.closeOf located.tokens located.header.opening
      = .ok closing) :
    (located.columns openings closing = [] ∧
      located.read openings = .error (.noColumnsParsed
        located.header.name.text
        (Block.declarations (located.block closing)).length))
      ∨ ∃ table, located.read openings = .ok table
        ∧ table.name = located.header.name.text
        ∧ table.schema = located.header.schema
        ∧ table.columns = located.columns openings closing := by
  obtain ⟨survey, made, header, verdicts⟩ : ∃ survey,
      Survey.ofLocated openings located = .ok survey
        ∧ survey.header = located.header
        ∧ survey.verdicts
          = (Block.declarations (located.block closing)).map
            (Verdict.on openings located.statement) := by
    simp [Survey.ofLocated, closed, block]
  have columns := columns_of_survey verdicts
  have unfolded : located.read openings = survey.table := by
    rw [read, made]
    rfl
  rw [unfolded, Survey.table, ← columns, ← header]
  split
  case _ none =>
    refine .inl ⟨none, ?_⟩
    rw [verdicts, List.length_map]
  case _ column others some =>
    exact .inr ⟨_, rfl, rfl, rfl, some.symm⟩

end Located

theorem Table.eq_of_parts {left right : Table} (name : left.name = right.name)
    (schema : left.schema = right.schema)
    (columns : left.columns = right.columns) : left = right := by
  cases left
  cases right
  cases name
  cases schema
  cases columns
  rfl

namespace Table

section Reading

variable [Splitter]

theorem parse_of_absent {openings : List Opening} {script : Option Text}
    (absent : Script.IsAbsent script) :
    parse openings script = .error .emptyInput := by
  cases script with
  | none => rfl
  | some text =>
      have blank := Script.isBlankText_iff.mpr absent
      simp [parse, Survey.ofScript, blank, Except.bind]

theorem parse_of_headless {openings : List Opening} {script : Text}
    (present : ¬Script.IsAbsent (some script))
    (headless : ∀ statement ∈ Splitter.statements script,
      Header.find? (Token.stream statement) = none) :
    parse openings (some script) = .error .tableNameNotFound := by
  have notBlank := mt Script.isBlankText_iff.mp present
  have nowhere := Located.find?_eq_none_iff.mpr headless
  simp [parse, Survey.ofScript, notBlank, nowhere, Except.bind]

/-- What is read is the first statement with a header and nothing else. -/
theorem parse_of_isFirst {openings : List Opening} {script : Text}
    {located : Located} (first : located.IsFirst script) :
    parse openings (some script) = located.read openings := by
  have notBlank := mt Script.isBlankText_iff.mp first.not_absent
  have found := Located.find?_eq_some_iff.mpr first
  simp [parse, Survey.ofScript, notBlank, found, Located.read]

theorem outcome_parse (openings : List Opening) (script : Option Text) :
    Outcome openings script (parse openings script) := by
  by_cases absent : Script.IsAbsent script
  · rw [parse_of_absent absent]
    exact .emptyInput absent
  · obtain ⟨text, rfl⟩ : ∃ text, script = some text := by
      cases script with
      | none => exact absurd trivial absent
      | some text => exact ⟨text, rfl⟩
    cases found : Located.find? text with
    | none =>
        have headless := Located.find?_eq_none_iff.mp found
        rw [parse_of_headless absent headless]
        exact .tableNameNotFound absent headless
    | some located =>
        have first := Located.find?_eq_some_iff.mp found
        rw [parse_of_isFirst first]
        cases result : Block.closeOf located.tokens located.header.opening with
        | error depth =>
            obtain ⟨unclosed, remaining⟩ :=
              first.closeOf_eq_error_iff.mp result
            obtain ⟨paren, opening, -⟩ := first.opening
            rw [Located.read_of_unclosed opening result]
            exact .columnBlockNotFound first opening unclosed remaining
        | ok closing =>
            have closed := first.closeOf_eq_ok_iff.mp result
            rcases Located.read_of_closed openings result with
              ⟨none, failed⟩ | ⟨table, made, name, schema, columns⟩
            · rw [failed]
              exact .noColumnsParsed first closed
                (Located.columns_eq_nil_iff.mp none)
            · rw [made]
              exact .table first closed name schema columns

theorem parse_of_outcome {openings : List Opening} {script : Option Text}
    {result : Except ParseFault Table}
    (outcome : Outcome openings script result) :
    parse openings script = result := by
  cases outcome with
  | emptyInput absent => exact parse_of_absent absent
  | tableNameNotFound present headless =>
      exact parse_of_headless present headless
  | columnBlockNotFound first opening unclosed remaining =>
      rw [parse_of_isFirst first]
      exact Located.read_of_unclosed opening
        (first.closeOf_eq_error_iff.mpr ⟨unclosed, remaining⟩)
  | noColumnsParsed first closed rejected =>
      rw [parse_of_isFirst first]
      have none := Located.columns_eq_nil_iff.mpr rejected
      rcases Located.read_of_closed openings
          (first.closeOf_eq_ok_iff.mpr closed) with
        ⟨-, failed⟩ | ⟨table, -, -, -, columns⟩
      · exact failed
      · exact absurd (columns.trans none) table.columns_ne_nil
  | table first closed name schema columns =>
      rw [parse_of_isFirst first]
      rcases Located.read_of_closed openings
          (first.closeOf_eq_ok_iff.mpr closed) with
        ⟨none, -⟩ | ⟨table, made, sameName, sameSchema, sameColumns⟩
      · exact absurd (columns.trans none) (Table.columns_ne_nil _)
      · rw [made, eq_of_parts (sameName.trans name.symm)
          (sameSchema.trans schema.symm) (sameColumns.trans columns.symm)]

theorem exists_located_of_parse {openings : List Opening} {script : Option Text}
    {table : Table} (parsed : parse openings script = .ok table) :
    ∃ (text : Text) (located : Located) (closing : Nat),
      script = some text ∧ located.IsFirst text
        ∧ table.name = located.header.name.text
        ∧ table.columns = located.columns openings closing := by
  have outcome := outcome_parse openings script
  rw [parsed] at outcome
  cases outcome with
  | table first closed name schema columns =>
      exact ⟨_, _, _, rfl, first, name, columns⟩

end Reading

/-- A table with a plain name and at least one column, all of them
well-formed. -/
structure WellFormed (table : Table) : Prop where
  name : Text.isPlainName table.name = true
  nonempty : table.columns ≠ []
  columns : ∀ column ∈ table.columns, column.WellFormed

end Table

theorem Located.IsFirst.sublist_of_mem_declarations [Splitter] {script : Text}
    {located : Located} {closing : Nat} {declaration : List Token}
    (first : located.IsFirst script)
    (declared : declaration ∈ Block.declarations (located.block closing)) :
    declaration.Sublist (Token.stream located.statement) := by
  obtain ⟨-, -, -, -, tokens, -⟩ := first
  rw [← tokens]
  calc
    declaration.Sublist (located.block closing) :=
      Block.sublist_of_mem_declarations declared
    (located.block closing).Sublist (located.tokens.take closing) :=
      List.drop_sublist _ _
    (located.tokens.take closing).Sublist located.tokens :=
      List.take_sublist _ _

theorem Located.wellFormed_of_mem_columns [Splitter] {openings : List Opening}
    {script : Text} {located : Located} {closing : Nat} {column : Column}
    (first : located.IsFirst script)
    (member : column ∈ located.columns openings closing) :
    column.WellFormed := by
  obtain ⟨declaration, declared, found⟩ := List.mem_filterMap.mp member
  exact Declaration.wellFormed_of_column?
    (first.sublist_of_mem_declarations declared)
    (column?_of_columnOf? found)

namespace Table

/-- Reading a script ends in exactly the outcome that `Outcome` tells, a table
that is read is well-formed, and nothing counts but the first statement with a
header.  Declarations have a first token, so a verdict never lacks a line. -/
theorem parse_classification [Splitter] (openings : List Opening)
    (script : Option Text) :
    (∀ result, parse openings script = result
      ↔ Outcome openings script result)
    ∧ (∀ table, parse openings script = .ok table → table.WellFormed)
    ∧ (∀ (text other : Text) (located another : Located),
      located.IsFirst text → another.IsFirst other →
        located.statement = another.statement →
          parse openings (some text) = parse openings (some other))
    ∧ (∀ (block : List Token), ∀ declaration ∈ Block.declarations block,
      declaration ≠ []) := by
  refine ⟨?_, ?_, ?_, ?_⟩
  · intro result
    constructor
    · intro parsed
      rw [← parsed]
      exact outcome_parse openings script
    · exact parse_of_outcome
  · intro table parsed
    have outcome := outcome_parse openings script
    rw [parsed] at outcome
    cases outcome with
    | table first closed name schema columns =>
        refine ⟨?_, table.columns_ne_nil, ?_⟩
        · rw [name]
          exact PlainName.plain _
        · intro column member
          rw [columns] at member
          exact Located.wellFormed_of_mem_columns first member
  · intro text other located another first second same
    rw [parse_of_isFirst first, parse_of_isFirst second,
      first.eq_of_statement second same]
  · intro block declaration member
    exact Block.ne_nil_of_mem_declarations member

end Table

end SchemaSheet
