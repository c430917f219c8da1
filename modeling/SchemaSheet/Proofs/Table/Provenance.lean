import Mathlib.Data.List.Forall2
import SchemaSheet.Proofs.Table.Outcome
import SchemaSheet.Script.Statement

/-!
# Where columns come from

Every column of a table is written in a stretch of the statement that holds its
name, its type and its comment.  `sourced_of_parse` says that these stretches
follow each other between the parentheses of the block, so that no piece of the
statement counts for two columns.
-/

namespace SchemaSheet

/-- A stretch of a text, from one offset up to another. -/
structure Extent where
  start : Nat
  stop : Nat

/-- The first stretch ends before the second begins. -/
def Extent.Precedes (first second : Extent) : Prop :=
  first.stop ≤ second.start

/-- A comment is empty, or it is the content of a text right behind the word
`COMMENT`, both of them between the two offsets. -/
inductive CommentIn (tokens : List Token) (start stop : Nat) : Text → Prop where
  | absent : CommentIn tokens start stop []
  | given {index : Nat} {word text : Token}
      (announced : tokens[index]? = some word)
      (isComment : word.isThe "COMMENT" = true)
      (follows : tokens[index + 1]? = some text) (isText : text.isText = true)
      (behind : start ≤ word.offset) (inside : text.stop ≤ stop) :
      CommentIn tokens start stop text.content

namespace Located

/-- The column is written in the stretch: the token at its start names it, its
type is cut out of the statement from the next token on, and its comment is
found behind the type. -/
inductive WrittenIn (located : Located) : Extent → Column → Prop where
  | intro {index typeStop stop : Nat} {name type : Token} {comment : Text}
      (named : located.tokens[index]? = some name)
      (typed : located.tokens[index + 1]? = some type)
      (follows : name.stop ≤ type.offset) (nonempty : type.offset < typeStop)
      (inside : typeStop ≤ stop)
      (commented : CommentIn located.tokens typeStop stop comment) :
      WrittenIn located ⟨name.offset, stop⟩
        { name := some name.content
          type := some (Text.upper
            (Declaration.slice located.statement type.offset typeStop))
          comment := some comment }

end Located

/-- The columns are written in stretches of the first statement with a header
that follow each other between the parentheses of its block. -/
inductive Sourced [Splitter] (script : Text) (columns : List Column) :
    Prop where
  | intro {located : Located} {closing : Nat} {opens closes : Token}
      {extents : List Extent} (first : located.IsFirst script)
      (closed : located.Closes closing)
      (opening : located.tokens[located.header.opening]? = some opens)
      (isOpening : opens.kind = .openParen)
      (ending : located.tokens[closing]? = some closes)
      (isClosing : closes.kind = .closeParen)
      (written : List.Forall₂ located.WrittenIn extents columns)
      (ordered : extents.Pairwise Extent.Precedes)
      (within : ∀ extent ∈ extents, opens.offset < extent.start
        ∧ extent.start < extent.stop ∧ extent.stop ≤ closes.offset) :
      Sourced script columns

namespace Declaration

/-- A type ends with one of the tokens from its first one on, and the rest is
what follows that token. -/
theorem exists_of_typeEnd (type : Token) (rest : List Token) :
    ∃ inner, type :: rest
      = inner ++ (typeEnd type rest).1 :: (typeEnd type rest).2 := by
  rcases typeEnd_cases type rest with alone
    | ⟨inner, last, later, rfl, -, found⟩
  · exact ⟨[], by rw [alone]; rfl⟩
  · exact ⟨type :: inner, by rw [found]; rfl⟩

theorem comment_cases (tokens : List Token) :
    comment tokens = []
      ∨ ∃ front word text rest, tokens = front ++ word :: text :: rest
        ∧ word.isThe "COMMENT" = true ∧ text.isText = true
        ∧ comment tokens = text.content := by
  induction tokens with
  | nil => exact .inl rfl
  | cons word later induction =>
      cases later with
      | nil => exact .inl rfl
      | cons text rest =>
          rw [comment]
          split
          case _ found =>
            obtain ⟨isComment, isText⟩ := Bool.and_eq_true_iff.mp found
            exact .inr ⟨[], word, text, rest, rfl, isComment, isText, rfl⟩
          case _ =>
            rcases induction with empty | ⟨front, first, second, behind,
              divided, isComment, isText, same⟩
            · exact .inl empty
            · exact .inr ⟨word :: front, first, second, behind,
                by rw [divided]; rfl, isComment, isText, same⟩

/-- The stretch from the first token of a declaration to its last one. -/
def extent (declaration : List Token) : Extent :=
  ⟨(declaration.head?.map Token.offset).getD 0,
    (declaration.getLast?.map Token.stop).getD 0⟩

end Declaration

namespace Located

section Declared

variable {located : Located} {closing index : Nat} {declaration : List Token}
  (tokens : located.tokens = Token.stream located.statement)
  (stands : Block.StandsAt 0 (located.block closing) index declaration)

include stands in
theorem sublist_of_standsAt : declaration.Sublist located.tokens :=
  stands.present.sublist.trans ((List.drop_sublist _ _).trans
    ((List.drop_sublist _ _).trans (List.take_sublist _ _)))

include stands in
theorem exists_first_of_standsAt (nonempty : declaration ≠ []) :
    ∃ first, (Declaration.extent declaration).start = first.offset
      ∧ located.tokens[located.header.opening + 1 + index]? = some first := by
  obtain ⟨first, rest, rfl⟩ := List.exists_cons_of_ne_nil nonempty
  have found : (first :: rest)[0]? = some first := rfl
  exact ⟨first, rfl, (Block.getElem?_of_standsAt stands found).2⟩

include stands in
theorem exists_last_of_standsAt (nonempty : declaration ≠ []) :
    ∃ last, (Declaration.extent declaration).stop = last.stop
      ∧ declaration.getLast? = some last
      ∧ located.header.opening + 1 + index + (declaration.length - 1)
        < closing
      ∧ located.tokens[located.header.opening + 1 + index
        + (declaration.length - 1)]? = some last := by
  have ends := List.getLast?_eq_some_getLast nonempty
  have found := ends
  rw [List.getLast?_eq_getElem?] at found
  refine ⟨_, ?_, ends, Block.getElem?_of_standsAt stands found⟩
  rw [Declaration.extent, ends]
  rfl

include tokens stands

theorem pairwise_of_standsAt : declaration.Pairwise Token.Precedes := by
  have ordered := Token.pairwise_stream located.statement
  rw [← tokens] at ordered
  exact ordered.sublist (sublist_of_standsAt stands)

/-- The comment behind a token of a declaration is written between the end of
that token and the end of the declaration. -/
theorem commentIn_of_standsAt {front later : List Token} {last final : Token}
    (divided : declaration = front ++ last :: later)
    (ends : declaration.getLast? = some final) :
    CommentIn located.tokens last.stop final.stop
      (Declaration.comment later) := by
  have ordered := pairwise_of_standsAt tokens stands
  rcases Declaration.comment_cases later with empty | ⟨middle, word, text,
    rest, rfl, isComment, isText, same⟩
  · rw [empty]
    exact .absent
  · rw [same]
    have whole : declaration
        = (front ++ last :: middle) ++ word :: text :: rest := by
      simp [divided]
    have announced : declaration[(front ++ last :: middle).length]?
        = some word := by
      rw [whole, List.getElem?_append_right (Nat.le_refl _), Nat.sub_self]
      rfl
    have follows : declaration[(front ++ last :: middle).length + 1]?
        = some text := by
      rw [whole, List.getElem?_append_right (Nat.le_add_right _ 1),
        Nat.add_sub_cancel_left]
      rfl
    have member : text ∈ declaration := List.mem_of_getElem? follows
    have precedes : last.Precedes word := by
      rw [divided] at ordered
      have behind := (List.pairwise_append.mp ordered).2.1
      exact (List.pairwise_cons.mp behind).1 word (by simp)
    exact .given (Block.getElem?_of_standsAt stands announced).2 isComment
      (Block.getElem?_of_standsAt stands follows).2 isText precedes
      (Token.stop_le_of_mem ordered ends member)

theorem writtenIn_extent {column : Column}
    (made : Declaration.column? located.statement declaration = some column) :
    located.WrittenIn (Declaration.extent declaration) column := by
  obtain ⟨name, type, rest, plain, rfl, named, isWord, -, rfl⟩ :=
    Declaration.column?_eq_some_iff.mp made
  have ordered := pairwise_of_standsAt tokens stands
  obtain ⟨afterName, afterType⟩ := List.pairwise_cons.mp ordered
  obtain ⟨final, back, ends, -⟩ := exists_last_of_standsAt stands (by simp)
  obtain ⟨inner, divided⟩ := Declaration.exists_of_typeEnd type rest
  have whole : name :: type :: rest = (name :: inner)
      ++ (Declaration.typeEnd type rest).1
        :: (Declaration.typeEnd type rest).2 := by
    rw [divided]
    rfl
  have typeForward : type.offset < type.stop := by
    have member : type ∈ Token.stream located.statement := by
      rw [← tokens]
      exact (sublist_of_standsAt stands).mem (by simp)
    apply Token.offset_lt_stop member
    rw [eq_of_beq isWord]
    decide
  have typeInside : type.stop ≤ (Declaration.typeEnd type rest).1.stop := by
    rcases Declaration.typeEnd_mem type rest with same | later
    · rw [same]
    · exact ((List.pairwise_cons.mp afterType).1 _ later).stop_le
  have extent : Declaration.extent (name :: type :: rest)
      = ⟨name.offset, final.stop⟩ := by
    rw [← back]
    rfl
  have first : (name :: type :: rest)[0]? = some name := rfl
  have second : (name :: type :: rest)[0 + 1]? = some type := rfl
  rw [extent, ← (Token.plainName?_eq_some_iff.mp named).2]
  exact .intro (Block.getElem?_of_standsAt stands first).2
    (Block.getElem?_of_standsAt stands second).2
    (afterName type List.mem_cons_self) (by omega)
    (Token.stop_le_of_mem ordered ends (by rw [whole]; simp))
    (commentIn_of_standsAt tokens stands whole ends)

theorem within_extent {column : Column} {opens closes : Token}
    (made : Declaration.column? located.statement declaration = some column)
    (opening : located.tokens[located.header.opening]? = some opens)
    (isOpening : opens.kind = .openParen)
    (ending : located.tokens[closing]? = some closes) :
    opens.offset < (Declaration.extent declaration).start
      ∧ (Declaration.extent declaration).start
        < (Declaration.extent declaration).stop
      ∧ (Declaration.extent declaration).stop ≤ closes.offset := by
  obtain ⟨name, type, rest, plain, rfl, named, -, -, -⟩ :=
    Declaration.column?_eq_some_iff.mp made
  have ordered := pairwise_of_standsAt tokens stands
  have listed := sublist_of_standsAt stands
  obtain ⟨first, front, firstAt⟩ := exists_first_of_standsAt stands (by simp)
  obtain ⟨last, back, ends, before, lastAt⟩ :=
    exists_last_of_standsAt stands (by simp)
  rw [tokens] at opening ending listed firstAt lastAt
  have opensForward : opens.offset < opens.stop := by
    apply Token.offset_lt_stop (List.mem_of_getElem? opening)
    simp [isOpening]
  have opensPrecedes : opens.Precedes first :=
    Token.precedes_of_lt opening firstAt (by omega)
  have closesFollows : last.Precedes closes :=
    Token.precedes_of_lt lastAt ending before
  have nameForward : name.offset < name.stop := by
    apply Token.offset_lt_stop (listed.mem List.mem_cons_self)
    have isName := (Token.plainName?_eq_some_iff.mp named).1
    intro isEnd
    simp [Token.isName, isEnd] at isName
  have nameInside : name.stop ≤ last.stop :=
    Token.stop_le_of_mem ordered ends List.mem_cons_self
  have start : (Declaration.extent (name :: type :: rest)).start
      = name.offset := rfl
  rw [Token.Precedes, ← front, start] at opensPrecedes
  rw [Token.Precedes, ← back] at closesFollows
  rw [start, back]
  omega

end Declared

/-- The columns that the block declares, each with the stretch in which it is
written. -/
def columnsIn (openings : List Opening) (located : Located) (closing : Nat) :
    List (Extent × Column) :=
  (Block.declarations (located.block closing)).filterMap fun declaration =>
    (located.columnOf? openings declaration).map fun column =>
      (Declaration.extent declaration, column)

theorem map_snd_columnsIn (openings : List Opening) (located : Located)
    (closing : Nat) :
    (located.columnsIn openings closing).map Prod.snd
      = located.columns openings closing :=
  map_snd_noted Declaration.extent openings located closing

theorem pairwise_extents {located : Located} {closing : Nat}
    (tokens : located.tokens = Token.stream located.statement) :
    (Block.declarations (located.block closing)).Pairwise
      fun first second => (Declaration.extent first).Precedes
        (Declaration.extent second) := by
  have ordered := Block.pairwise_declarationsAt (located.block closing)
  rw [← Block.map_snd_declarationsAt, List.pairwise_map]
  apply ordered.imp_of_mem
  rintro ⟨index, earlier⟩ ⟨place, later⟩ declared laterDeclared before
  have nonempty := Block.ne_nil_of_mem_declarationsAt declared
  have occupied := List.length_pos_iff.mpr nonempty
  obtain ⟨last, back, -, -, lastAt⟩ := exists_last_of_standsAt
    (Block.standsAt_of_mem_declarationsAt declared) nonempty
  obtain ⟨first, front, firstAt⟩ := exists_first_of_standsAt
    (Block.standsAt_of_mem_declarationsAt laterDeclared)
    (Block.ne_nil_of_mem_declarationsAt laterDeclared)
  rw [tokens] at lastAt firstAt
  rw [Extent.Precedes, back, front]
  apply Token.precedes_of_lt lastAt firstAt
  simp only [Block.Before] at before
  omega

theorem exists_of_mem_columnsIn {openings : List Opening} {located : Located}
    {closing : Nat} {extent : Extent} {column : Column}
    (member : (extent, column) ∈ located.columnsIn openings closing) :
    ∃ index declaration,
      Block.StandsAt 0 (located.block closing) index declaration
        ∧ Declaration.column? located.statement declaration = some column
        ∧ extent = Declaration.extent declaration := by
  obtain ⟨declaration, declared, made⟩ := List.mem_filterMap.mp member
  obtain ⟨found, accepted, same⟩ := Option.map_eq_some_iff.mp made
  cases same
  rw [← Block.map_snd_declarationsAt] at declared
  obtain ⟨⟨index, piece⟩, stands, rfl⟩ := List.mem_map.mp declared
  exact ⟨index, piece, Block.standsAt_of_mem_declarationsAt stands,
    column?_of_columnOf? accepted, rfl⟩

theorem pairwise_columnsIn {openings : List Opening} {located : Located}
    {closing : Nat}
    (tokens : located.tokens = Token.stream located.statement) :
    (located.columnsIn openings closing).Pairwise
      fun first second => first.1.Precedes second.1 := by
  refine List.Pairwise.filterMap _ ?_ (pairwise_extents tokens)
  intro first second precedes column made other otherMade
  obtain ⟨-, -, rfl⟩ := Option.map_eq_some_iff.mp made
  obtain ⟨-, -, rfl⟩ := Option.map_eq_some_iff.mp otherMade
  exact precedes

end Located

namespace Table

/-- The columns of a table are written in stretches of one statement that
follow each other, all of them between the parentheses of its block. -/
theorem sourced_of_parse [Splitter] {openings : List Opening} {script : Text}
    {table : Table} (parsed : parse openings (some script) = .ok table) :
    Sourced script table.columns := by
  have outcome := outcome_parse openings (some script)
  rw [parsed] at outcome
  cases outcome with
  | @table _ located closing _ first closed name schema columns =>
      obtain ⟨opens, opening, isOpening⟩ := first.opening
      obtain ⟨closes, ending, isClosing⟩ :=
        Block.kind_of_closeOf (first.closeOf_eq_ok_iff.mpr closed)
      have tokens : located.tokens = Token.stream located.statement := by
        obtain ⟨-, -, -, -, tokens, -⟩ := first
        exact tokens
      have written : List.Forall₂ located.WrittenIn
          ((located.columnsIn openings closing).map Prod.fst)
          ((located.columnsIn openings closing).map Prod.snd) := by
        rw [List.forall₂_map_left_iff, List.forall₂_map_right_iff,
          List.forall₂_same]
        rintro ⟨extent, column⟩ member
        obtain ⟨index, declaration, stands, made, rfl⟩ :=
          Located.exists_of_mem_columnsIn member
        exact Located.writtenIn_extent tokens stands made
      rw [Located.map_snd_columnsIn, ← columns] at written
      refine .intro first closed opening isOpening ending isClosing written
        ?_ ?_
      · rw [List.pairwise_map]
        exact Located.pairwise_columnsIn tokens
      · intro extent member
        obtain ⟨⟨_, column⟩, listed, rfl⟩ := List.mem_map.mp member
        obtain ⟨index, declaration, stands, made, rfl⟩ :=
          Located.exists_of_mem_columnsIn listed
        exact Located.within_extent tokens stands made opening isOpening ending

/-- Two columns with a key between them, the second with a comment. -/
def twoColumnsAndKey : Text :=
  "CREATE TABLE t(a b(1),KEY(a),c d COMMENT 'e')"

theorem sourced_of_parse_of_two_columns :
    ∃ table, parse Opening.standard (some twoColumnsAndKey) = .ok table
      ∧ table.columns.length = 2 ∧ Sourced twoColumnsAndKey table.columns := by
  have read : (parse Opening.standard (some twoColumnsAndKey)).toOption.any
      (fun table => table.columns.length == 2) = true := by
    decide +kernel
  cases parsed : parse Opening.standard (some twoColumnsAndKey) with
  | error fault =>
      rw [parsed] at read
      cases read
  | ok table =>
      rw [parsed] at read
      exact ⟨table, rfl, eq_of_beq read, sourced_of_parse parsed⟩

end Table

end SchemaSheet
