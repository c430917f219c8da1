import SchemaSheet.Proofs.Text.Uppercase

/-!
# Words of a text

A text spells the words that stand in it between blanks.  Upper case makes no
blank and removes none, so a text in upper case spells its words in upper case.
-/

namespace SchemaSheet

namespace Text

/-- The text consists of the words in their order, with blanks between any two
of them, and perhaps in front and behind. -/
inductive Spells : List Text → Text → Prop where
  | blank {text : Text} (blank : ∀ char ∈ text, isBlank char = true) :
      Spells [] text
  | word {lead word rest : Text} {words : List Text}
      (blank : ∀ char ∈ lead, isBlank char = true) (nonempty : word ≠ [])
      (solid : ∀ char ∈ word, isBlank char = false)
      (apart : ∀ char, rest.head? = some char → isBlank char = true)
      (later : Spells words rest) : Spells (word :: words) (lead ++ word ++ rest)

/-- A blank ends a word, and what follows it is divided on its own. -/
theorem wordsFrom_append_blank {char : Character} (blank : isBlank char = true)
    (word front rest : Text) :
    wordsFrom word (front ++ char :: rest)
      = wordsFrom word front ++ wordsFrom [] rest := by
  induction front generalizing word with
  | nil =>
      rw [List.nil_append, wordsFrom, wordsFrom, if_pos blank]
      split <;> rfl
  | cons first later induction =>
      simp only [List.cons_append, wordsFrom]
      split
      · split
        · exact induction []
        · rw [induction, List.cons_append]
      · exact induction (first :: word)

theorem wordsFrom_append_solid {piece : Text}
    (solid : ∀ char ∈ piece, isBlank char = false) (word rest : Text) :
    wordsFrom word (piece ++ rest) = wordsFrom (piece.reverse ++ word) rest := by
  induction piece generalizing word with
  | nil => rfl
  | cons char later induction =>
      obtain ⟨first, others⟩ := List.forall_mem_cons.mp solid
      rw [List.cons_append, wordsFrom, if_neg (Bool.eq_false_iff.mp first),
        induction others, List.reverse_cons, List.append_assoc]
      rfl

theorem words_blank_append {lead : Text}
    (blank : ∀ char ∈ lead, isBlank char = true) (rest : Text) :
    words (lead ++ rest) = words rest := by
  induction lead with
  | nil => rfl
  | cons char later induction =>
      obtain ⟨first, others⟩ := List.forall_mem_cons.mp blank
      have here := wordsFrom_append_blank first [] [] (later ++ rest)
      exact here.trans (induction others)

theorem words_word_append {word rest : Text} (nonempty : word ≠ [])
    (solid : ∀ char ∈ word, isBlank char = false)
    (apart : ∀ char, rest.head? = some char → isBlank char = true) :
    words (word ++ rest) = word :: words rest := by
  rw [words, wordsFrom_append_solid solid]
  cases rest with
  | nil => simp [wordsFrom, words, nonempty]
  | cons char later =>
      have blank := apart char rfl
      simp [wordsFrom, words, blank, nonempty]

theorem words_of_spells {words : List Text} {text : Text}
    (spells : Spells words text) : text.words = words := by
  induction spells with
  | blank blank =>
      have nothing := words_blank_append blank []
      rwa [List.append_nil] at nothing
  | word blank nonempty solid apart later induction =>
      rw [List.append_assoc, words_blank_append blank,
        words_word_append nonempty solid apart, induction]

theorem Spells.blank_cons {words : List Text} {char : Character} {text : Text}
    (first : isBlank char = true) (spells : Spells words text) :
    Spells words (char :: text) := by
  cases spells with
  | blank blank => exact .blank (List.forall_mem_cons.mpr ⟨first, blank⟩)
  | word blank nonempty solid apart later =>
      exact .word (List.forall_mem_cons.mpr ⟨first, blank⟩) nonempty solid apart
        later

theorem spells_wordsFrom {word : Text}
    (solid : ∀ char ∈ word, isBlank char = false) (text : Text) :
    Spells (wordsFrom word text) (word.reverse ++ text) := by
  have solidReverse : ∀ {word : Text},
      (∀ char ∈ word, isBlank char = false) →
        ∀ char ∈ word.reverse, isBlank char = false := by
    intro word solid char member
    exact solid char (List.mem_reverse.mp member)
  have nothing : ∀ char ∈ ([] : Text), isBlank char = true :=
    List.forall_mem_nil _
  induction text generalizing word with
  | nil =>
      cases word with
      | nil => exact .blank nothing
      | cons char later =>
          exact .word nothing (by simp) (solidReverse solid) (by simp)
            (.blank nothing)
  | cons char rest induction =>
      rw [wordsFrom]
      split
      case isTrue blank =>
        have later := (induction (List.forall_mem_nil _)).blank_cons blank
        cases word with
        | nil => exact later
        | cons first others =>
            exact .word nothing (by simp) (solidReverse solid)
              (by rintro other ⟨⟩; exact blank) later
      case isFalse inner =>
        have further := induction (List.forall_mem_cons.mpr
          ⟨Bool.eq_false_iff.mpr inner, solid⟩)
        simpa using further

/-- The words of a text are the ones that it spells. -/
theorem words_eq_iff {words : List Text} {text : Text} :
    text.words = words ↔ Spells words text := by
  constructor
  · rintro rfl
    exact spells_wordsFrom (List.forall_mem_nil _) text
  · exact words_of_spells

theorem words_eq_nil_iff {text : Text} :
    text.words = [] ↔ isBlankText text = true := by
  rw [words_eq_iff, isBlankText, List.all_eq_true]
  constructor
  · intro spells
    cases spells with
    | blank blank => exact blank
  · exact Spells.blank

theorem Spells.upper {words : List Text} {text : Text}
    (spells : Spells words text) :
    Spells (words.map Text.upper) (Text.upper text) := by
  induction spells with
  | @blank text blank =>
      rw [upper_of_blank blank]
      exact .blank blank
  | @word lead word rest words blank nonempty solid apart later induction =>
      rw [upper_append, upper_append, upper_of_blank blank, List.map_cons]
      refine .word blank (upper_ne_nil nonempty) ?_ ?_ induction
      · intro char member
        obtain ⟨letter, listed, made⟩ := List.mem_flatMap.mp member
        exact not_blank_of_mem_upper (solid letter listed) made
      · intro char head
        cases rest with
        | nil => cases head
        | cons first later =>
            have blank := apart first rfl
            rw [upper_cons, upper_blank blank] at head
            cases head
            exact blank

theorem words_upper (text : Text) :
    (upper text).words = text.words.map upper :=
  words_of_spells (words_eq_iff.mp rfl).upper

end Text

end SchemaSheet
