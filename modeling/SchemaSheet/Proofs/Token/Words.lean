import Mathlib.Data.List.TakeWhile
import SchemaSheet.Proofs.Token.Starter

/-!
# Words

A word consists of word characters and nothing else: only the lexemes that
begin with a digit or a letter can be words, and these take word characters.
-/

namespace SchemaSheet

namespace Lexeme

theorem take_runLength (accepts : Character → Bool) (text : Text) :
    text.take (runLength accepts text) = text.takeWhile accepts :=
  (List.prefix_iff_eq_take.mp (List.takeWhile_prefix accepts)).symm

theorem numeral_word {text : Text} (word : (numeral text).1 = .word) :
    (numeral text).2 = runLength isWordChar text := by
  unfold numeral at word ⊢
  simp only at word ⊢
  split at word
  · cases word
  · split at word
    · next begins => rw [if_pos begins]
    · cases word

/-- A run that goes on with a character of its class is of that class. -/
theorem forall_mem_run {accepts : Character → Bool} {char : Character}
    (accepted : accepts char = true) (text : Text) :
    ∀ member ∈ char :: text.take (runLength accepts text),
      accepts member = true := by
  rw [take_runLength]
  exact List.forall_mem_cons.mpr
    ⟨accepted, fun _ inside => List.mem_takeWhile_imp inside⟩

/-- The lexeme is a word only if its characters decide that. -/
def Starter.Proper : Starter → Prop
  | quote kind _ => kind ≠ .word
  | alone kind => kind ≠ .word
  | _ => True

theorem Starter.Sorted.proper {starter : Starter} (sorted : starter.Sorted) :
    starter.Proper := by
  cases starter with
  | quote kind escapes => rcases sorted with rfl | rfl <;> exact nofun
  | alone kind =>
      have noWord : ∀ kind ∈ loneKinds, kind ≠ .word := by decide
      exact noWord kind sorted
  | _ => exact trivial

theorem Starter.isWordChar_of_read {starter : Starter} {char : Character}
    {text : Text} (described : Describes char starter)
    (proper : starter.Proper) (word : (starter.read char text).1 = .word) :
    ∀ member ∈ char :: text.take (starter.read char text).2,
      isWordChar member = true := by
  cases starter with
  | dash =>
      simp only [read] at word
      split at word
      · cases word
      · cases word
  | slash =>
      simp only [read, Lexeme.slash] at word
      split at word
      · split at word
        · cases word
        · cases word
      · cases word
  | hash | carriageReturn | blank => cases word
  | quote kind escapes =>
      simp only [read, quoted] at word
      split at word
      · exact absurd word proper
      · cases word
  | digit =>
      have length : (Starter.digit.read char text).2
          = runLength isWordChar text := numeral_word word
      rw [length]
      exact forall_mem_run (isWordChar_of_isDigit described) text
  | letter => exact forall_mem_run described.1 text
  | alone kind => exact absurd word proper

theorem isWordChar_of_mem_lexemes {text : Text} {lexeme : Lexeme}
    (member : lexeme ∈ lexemes text) (word : lexeme.kind = .word) :
    ∀ char ∈ lexeme.text, isWordChar char = true := by
  obtain ⟨char, rest, rfl⟩ := exists_first_of_mem_lexemes member
  rw [first_eq_read] at word ⊢
  exact Starter.isWordChar_of_read (Starter.describes_of char)
    (Starter.sorted_of char).proper word

end Lexeme

end SchemaSheet
