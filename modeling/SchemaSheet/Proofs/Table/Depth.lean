import SchemaSheet.Proofs.Table.Outcome
import SchemaSheet.Script.Statement

/-!
# Columns and nested parentheses

Where the names of columns stand in their block.  A comma ends a declaration
outside nested parentheses only, but a line break ends one everywhere, so a
line inside parentheses may declare a column of its own.
`depth_of_columnsAt` says that nothing else inside parentheses does.
-/

namespace SchemaSheet

namespace Located

/-- The columns that the block declares, each with the index in the block of
the token that names it. -/
def columnsAt (openings : List Opening) (located : Located) (closing : Nat) :
    List (Nat × Column) :=
  (Block.declarationsAt (located.block closing)).filterMap fun declared =>
    (located.columnOf? openings declared.2).map fun column =>
      (declared.1, column)

/-- Parentheses of the block that are open in front of a token of it. -/
def depthAt (located : Located) (closing index : Nat) : Int :=
  Block.balance ((located.block closing).take index)

/-- The column is made from the declaration that begins at the index, whose
first token names it. -/
def MadeAt (openings : List Opening) (located : Located) (closing index : Nat)
    (column : Column) : Prop :=
  ∃ name rest,
    (index, name :: rest) ∈ Block.declarationsAt (located.block closing)
      ∧ (located.block closing)[index]? = some name
      ∧ located.columnOf? openings (name :: rest) = some column
      ∧ column.name = name.plainName?.map PlainName.text

variable {openings : List Opening} {located : Located} {closing : Nat}

theorem map_snd_columnsAt :
    (located.columnsAt openings closing).map Prod.snd
      = located.columns openings closing := by
  have declared := Block.map_snd_declarationsAt (located.block closing)
  rw [columns, ← declared, List.filterMap_map, columnsAt, List.map_filterMap]
  congr 1
  funext entry
  simp [Function.comp_def, Option.map_map]

theorem exists_of_mem_columnsAt {index : Nat} {column : Column}
    (member : (index, column) ∈ located.columnsAt openings closing) :
    ∃ declaration,
      (index, declaration) ∈ Block.declarationsAt (located.block closing)
        ∧ located.columnOf? openings declaration = some column := by
  obtain ⟨⟨place, declaration⟩, declared, made⟩ := List.mem_filterMap.mp member
  obtain ⟨found, accepted, same⟩ := Option.map_eq_some_iff.mp made
  cases same
  exact ⟨declaration, declared, accepted⟩

theorem pairwise_columnsAt :
    (located.columnsAt openings closing).Pairwise
      fun first second => first.1 < second.1 := by
  have ordered := Block.pairwise_declarationsAt (located.block closing)
  refine List.Pairwise.filterMap _ ?_ ordered
  intro first second before column made other otherMade
  obtain ⟨-, -, rfl⟩ := Option.map_eq_some_iff.mp made
  obtain ⟨-, -, rfl⟩ := Option.map_eq_some_iff.mp otherMade
  simp only [Block.Before] at before
  simp only
  omega

theorem madeAt_of_mem_columnsAt {index : Nat} {column : Column}
    (member : (index, column) ∈ located.columnsAt openings closing) :
    located.MadeAt openings closing index column := by
  obtain ⟨declaration, declared, made⟩ := exists_of_mem_columnsAt member
  have accepted := column?_of_columnOf? made
  obtain ⟨name, type, rest, plain, rfl, named, -, -, columnEq⟩ :=
    Declaration.column?_eq_some_iff.mp accepted
  obtain ⟨behind, whole⟩ :=
    (Block.standsAt_of_mem_declarationsAt declared).present
  have first := congrArg List.head? whole
  refine ⟨name, type :: rest, declared, by simpa using first.symm, made, ?_⟩
  rw [columnEq, named]
  rfl

/-- A column is named outside nested parentheses, or right behind a line break
that stands inside them. -/
theorem depth_of_mem_columnsAt {index : Nat} {column : Column}
    (closed : Block.closeOf located.tokens located.header.opening
      = .ok closing)
    (member : (index, column) ∈ located.columnsAt openings closing) :
    located.depthAt closing index = 0
      ∨ ∃ earlier lineBreak, index = earlier + 1
        ∧ (located.block closing)[earlier]? = some lineBreak
        ∧ lineBreak.kind = .lineBreak
        ∧ 0 < located.depthAt closing earlier := by
  obtain ⟨declaration, declared, -⟩ := exists_of_mem_columnsAt member
  have stands := Block.standsAt_of_mem_declarationsAt declared
  rcases stands.edge with front | ⟨earlier, token, follows, found, ends⟩
  · left
    simp [depthAt, front]
  · have depth : located.depthAt closing index
        = located.depthAt closing earlier := by
      rw [depthAt, follows, Block.balance_take_succ found,
        Block.step_eq_zero_of_separates ends, Int.add_zero, depthAt]
    by_cases outside : located.depthAt closing earlier = 0
    · exact .inl (depth.trans outside)
    · -- A comma separates at depth zero only, so the token is a line break.
      have isBreak : token.kind = .lineBreak := by
        rw [depthAt] at outside
        simpa [Block.separates, outside] using ends
      have nonneg : 0 ≤ located.depthAt closing earlier :=
        Block.balance_take_between_nonneg closed earlier
      exact .inr ⟨earlier, token, follows, found, isBreak, by omega⟩

theorem exists_table_of_mem_columnsAt [Splitter] {script : Text}
    (first : located.IsFirst script) (closed : located.Closes closing)
    {entry : Nat × Column}
    (member : entry ∈ located.columnsAt openings closing) :
    ∃ table, Table.parse openings (some script) = .ok table
      ∧ table.columns = located.columns openings closing := by
  rw [Table.parse_of_isFirst first]
  rcases read_of_closed openings
      (first.closeOf_eq_ok_iff.mpr closed) with
    ⟨none, -⟩ | ⟨table, made, -, -, columns⟩
  · have listed := List.mem_map_of_mem (f := Prod.snd) member
    rw [map_snd_columnsAt, none] at listed
    cases listed
  · exact ⟨table, made, columns⟩

end Located

namespace Table

/-- Each column of a table is made at a token of the column block that names
it, in the order of these tokens.  The token stands outside nested parentheses,
or else right behind a line break that stands inside them. -/
theorem depth_of_columns [Splitter] {openings : List Opening} {script : Text}
    {table : Table} (parsed : parse openings (some script) = .ok table) :
    ∃ (located : Located) (closing : Nat) (origins : List (Nat × Column)),
      located.IsFirst script ∧ located.Closes closing
        ∧ origins.map Prod.snd = table.columns
        ∧ origins.Pairwise (fun first second => first.1 < second.1)
        ∧ ∀ index column, (index, column) ∈ origins →
          located.MadeAt openings closing index column
          ∧ (located.depthAt closing index = 0
            ∨ ∃ earlier lineBreak, index = earlier + 1
              ∧ (located.block closing)[earlier]? = some lineBreak
              ∧ lineBreak.kind = .lineBreak
              ∧ 0 < located.depthAt closing earlier) := by
  have outcome := outcome_parse openings (some script)
  rw [parsed] at outcome
  cases outcome with
  | @table _ located closing _ first closed name schema columns =>
      have found := first.closeOf_eq_ok_iff.mpr closed
      refine ⟨located, closing, located.columnsAt openings closing, first,
        closed, ?_, Located.pairwise_columnsAt, ?_⟩
      · rw [Located.map_snd_columnsAt, columns]
      · intro index column member
        exact ⟨Located.madeAt_of_mem_columnsAt member,
          Located.depth_of_mem_columnsAt found member⟩

/-- A key of two lines whose second line reads like a column. -/
def keyOfTwoLines : Text := "CREATE TABLE t(a b,KEY(\nc d))"

/-- The second line of the key declares a column inside its parentheses. -/
theorem exists_column_inside_key :
    ∃ (located : Located) (closing : Nat) (entry : Nat × Column)
      (table : Table), located.IsFirst keyOfTwoLines
        ∧ located.Closes closing
        ∧ entry ∈ located.columnsAt Opening.standard closing
        ∧ located.depthAt closing entry.1 = 1
        ∧ parse Opening.standard (some keyOfTwoLines) = .ok table := by
  have inside : ((Located.find? keyOfTwoLines).any fun located =>
      (Block.closeOf located.tokens located.header.opening).toOption.any
        fun closing =>
          (located.columnsAt Opening.standard closing).any fun entry =>
            located.depthAt closing entry.1 == 1) = true := by
    decide +kernel
  cases found : Located.find? keyOfTwoLines with
  | none =>
      rw [found] at inside
      cases inside
  | some located =>
      have first := Located.find?_eq_some_iff.mp found
      rw [found, Option.any_some] at inside
      cases closed :
          Block.closeOf located.tokens located.header.opening with
      | error fault =>
          rw [closed] at inside
          cases inside
      | ok closing =>
          rw [closed] at inside
          have closes := first.closeOf_eq_ok_iff.mp closed
          obtain ⟨entry, member, deep⟩ := List.any_eq_true.mp inside
          obtain ⟨table, parsed, -⟩ :=
            Located.exists_table_of_mem_columnsAt first closes member
          exact ⟨located, closing, entry, table, first, closes, member,
            by simpa using deep, parsed⟩

theorem depth_of_columns_of_two_lines :
    ∃ table, parse Opening.standard (some keyOfTwoLines) = .ok table
      ∧ ∃ (located : Located) (closing : Nat) (origins : List (Nat × Column)),
        located.IsFirst keyOfTwoLines ∧ located.Closes closing
          ∧ origins.map Prod.snd = table.columns
          ∧ origins.Pairwise (fun first second => first.1 < second.1)
          ∧ ∀ index column, (index, column) ∈ origins →
            located.MadeAt Opening.standard closing index column
            ∧ (located.depthAt closing index = 0
              ∨ ∃ earlier lineBreak, index = earlier + 1
                ∧ (located.block closing)[earlier]? = some lineBreak
                ∧ lineBreak.kind = .lineBreak
                ∧ 0 < located.depthAt closing earlier) := by
  obtain ⟨-, -, -, table, -, -, -, -, parsed⟩ := exists_column_inside_key
  exact ⟨table, parsed, depth_of_columns parsed⟩

/-- Not every column is named outside nested parentheses: the second line of a
key may declare one. -/
theorem not_all_columns_outside_parentheses :
    ¬∀ (openings : List Opening) (script : Text) (table : Table)
      (located : Located) (closing : Nat),
      parse openings (some script) = .ok table → located.IsFirst script →
        located.Closes closing →
          ∀ entry ∈ located.columnsAt openings closing,
            located.depthAt closing entry.1 = 0 := by
  intro outside
  obtain ⟨located, closing, entry, table, first, closes, member, deep,
    parsed⟩ := exists_column_inside_key
  have flat := outside Opening.standard keyOfTwoLines table located closing
    parsed first closes entry member
  omega

end Table

end SchemaSheet
