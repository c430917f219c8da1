import SchemaSheet.Proofs.Table.HeaderLabel
import SchemaSheet.Proofs.Table.HeaderSearch
import SchemaSheet.Table.Parse

/-!
# The statement that describes a table

`Located.find?` finds the first statement of a script that has a header, with
its tokens and the header.  A blank script has no such statement.
-/

namespace SchemaSheet

namespace Script

/-- There is no script, or nothing but blanks in it. -/
def IsAbsent : Option Text → Prop
  | none => True
  | some text => ∀ char ∈ text, isBlank char = true

theorem isBlankText_iff {text : Text} :
    Text.isBlankText text = true ↔ IsAbsent (some text) :=
  List.all_eq_true

/-- Blanks make up no header. -/
theorem headless_of_absent {text : Text} (absent : IsAbsent (some text)) :
    Header.find? (Token.stream text) = none :=
  Option.map_eq_none_iff.mp (Header.labelOf_of_allBlank absent)

end Script

namespace Located

theorem ofStatement?_eq_none_iff {statement : Text} :
    ofStatement? statement = none
      ↔ Header.find? (Token.stream statement) = none := by
  simp [ofStatement?]

theorem ofStatement?_eq_some_iff {statement : Text} {located : Located} :
    ofStatement? statement = some located
      ↔ located.statement = statement
        ∧ located.tokens = Token.stream statement
        ∧ Header.find? located.tokens = some located.header := by
  simp only [ofStatement?, Option.map_eq_some_iff]
  constructor
  · rintro ⟨header, found, rfl⟩
    exact ⟨rfl, rfl, found⟩
  · rintro ⟨rfl, tokens, found⟩
    rw [tokens] at found
    refine ⟨located.header, found, ?_⟩
    rw [← tokens]

section Search

variable [Splitter]

/-- The statement, with its tokens and its header, is the first one of the
script that has a header. -/
def IsFirst (script : Text) (located : Located) : Prop :=
  ∃ before after,
    Splitter.statements script = before ++ located.statement :: after
      ∧ (∀ earlier ∈ before, Header.find? (Token.stream earlier) = none)
      ∧ located.tokens = Token.stream located.statement
      ∧ Header.find? located.tokens = some located.header

theorem find?_eq_none_iff {script : Text} :
    find? script = none ↔ ∀ statement ∈ Splitter.statements script,
      Header.find? (Token.stream statement) = none := by
  simp only [find?, List.findSome?_eq_none_iff, ofStatement?_eq_none_iff]

theorem find?_eq_some_iff {script : Text} {located : Located} :
    find? script = some located ↔ located.IsFirst script := by
  simp only [find?, List.findSome?_eq_some_iff, ofStatement?_eq_none_iff,
    ofStatement?_eq_some_iff, IsFirst]
  constructor
  · rintro ⟨before, statement, after, divided, ⟨rfl, tokens, found⟩, earlier⟩
    exact ⟨before, after, divided, earlier, tokens, found⟩
  · rintro ⟨before, after, divided, earlier, tokens, found⟩
    exact ⟨before, located.statement, after, divided, ⟨rfl, tokens, found⟩,
      earlier⟩

theorem IsFirst.not_absent {script : Text} {located : Located}
    (first : located.IsFirst script) : ¬Script.IsAbsent (some script) := by
  intro absent
  obtain ⟨before, after, divided, -, tokens, found⟩ := first
  have member : located.statement ∈ Splitter.statements script := by
    simp [divided]
  have blank : Script.IsAbsent (some located.statement) :=
    fun char inside => absent char (Splitter.subset_of_mem member inside)
  rw [tokens, Script.headless_of_absent blank] at found
  cases found

theorem IsFirst.eq_of_statement {script other : Text}
    {located another : Located} (first : located.IsFirst script)
    (second : another.IsFirst other)
    (same : located.statement = another.statement) : located = another := by
  obtain ⟨-, -, -, -, tokens, found⟩ := first
  obtain ⟨-, -, -, -, otherTokens, otherFound⟩ := second
  cases located
  cases another
  simp only at same tokens found otherTokens otherFound
  subst same tokens otherTokens
  rw [found] at otherFound
  cases otherFound
  rfl

theorem IsFirst.opening {script : Text} {located : Located}
    (first : located.IsFirst script) :
    ∃ paren, located.tokens[located.header.opening]? = some paren
      ∧ paren.kind = .openParen := by
  obtain ⟨-, -, -, -, -, found⟩ := first
  exact Header.opening_of_find? found

end Search

end Located

end SchemaSheet
