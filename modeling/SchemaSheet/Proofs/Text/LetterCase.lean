import SchemaSheet.Proofs.Text.Uppercase
import SchemaSheet.Text.WordChar

/-!
# Letter case

Two texts that differ in the case of ASCII letters only are the same text once
all of these are small.  Upper case, word characters and digits do not tell such
texts apart.
-/

namespace SchemaSheet

namespace Character

/-- The character, with an ASCII letter in its small form. -/
def fold : Character → Character
  | of char => of char.toLower
  | half index => half index

/-- What relates a character to its small form can be checked for ASCII. -/
theorem forall_fold {P : Character → Character → Prop}
    (same : ∀ char, P char char)
    (checked : ∀ code < 0x80,
      P (.of (Char.ofNat code)) (.of (Char.ofNat code).toLower))
    (char : Character) : P char char.fold := by
  cases char with
  | half index => exact same _
  | of char =>
      by_cases ascii : char.toNat < 0x80
      · rw [← Char.ofNat_toNat char]
        exact checked char.toNat ascii
      · have noCapital : ¬(char.val ≥ 'A'.val ∧ char.val ≤ 'Z'.val) := by
          intro capital
          exact ascii (Nat.lt_of_le_of_lt capital.2 (by decide))
        have unchanged : char.toLower = char := dif_neg noCapital
        rw [fold, unchanged]
        exact same _

theorem upper_fold (char : Character) : char.fold.upper = char.upper :=
  forall_fold (P := fun char folded => folded.upper = char.upper)
    (fun _ => rfl) (by decide +kernel) char

/-- Only letters have another small form, which is a letter. -/
theorem fold_cases (char : Character) :
    char.fold = char
      ∨ char.isIn Char.isAlpha = true ∧ char.fold.isIn Char.isAlpha = true :=
  forall_fold
    (P := fun char folded => folded = char
      ∨ char.isIn Char.isAlpha = true ∧ folded.isIn Char.isAlpha = true)
    (fun _ => .inl rfl) (by decide +kernel) char

theorem isWordChar_of_isAlpha {char : Character}
    (letter : char.isIn Char.isAlpha = true) : isWordChar char = true := by
  cases char with
  | half index => cases letter
  | of char =>
      have alphanumeric : char.isAlphanum = true := by
        rw [Char.isAlphanum, Bool.or_eq_true]
        exact .inl letter
      simp [isWordChar, isIn, alphanumeric]

theorem isDigit_of_isAlpha {char : Character}
    (letter : char.isIn Char.isAlpha = true) : isDigit char = false := by
  have checked : ∀ code < 0x80, (Char.ofNat code).isAlpha = true →
      isDigit (.of (Char.ofNat code)) = false := by
    decide +kernel
  cases char with
  | half index => cases letter
  | of char =>
      have ascii : char.toNat < 0x80 := by
        rcases Bool.or_eq_true_iff.mp letter with capital | small
        · have last := (of_decide_eq_true capital).2
          exact Nat.lt_of_le_of_lt last (by decide)
        · have last := of_decide_eq_true (Bool.and_eq_true_iff.mp small).2
          exact Nat.lt_of_le_of_lt last (by decide)
      have same := Char.ofNat_toNat char
      rw [isIn, ← same] at letter
      rw [← same]
      exact checked char.toNat ascii letter

/-- What holds of all letters or of none does not tell apart the cases. -/
theorem eq_fold {α : Type} {value : Character → α} {ofLetter : α}
    (letters : ∀ char : Character, char.isIn Char.isAlpha = true →
      value char = ofLetter) (char : Character) :
    value char.fold = value char := by
  rcases fold_cases char with same | ⟨letter, folded⟩
  · rw [same]
  · rw [letters _ folded, letters _ letter]

theorem isWordChar_fold (char : Character) :
    isWordChar char.fold = isWordChar char :=
  eq_fold (fun _ => isWordChar_of_isAlpha) char

theorem isDigit_fold (char : Character) : isDigit char.fold = isDigit char :=
  eq_fold (fun _ => isDigit_of_isAlpha) char

theorem fold_eq_iff {char mark : Character}
    (isMark : mark.isIn Char.isAlpha = false) :
    char.fold = mark ↔ char = mark := by
  rcases fold_cases char with same | ⟨letter, folded⟩
  · rw [same]
  · constructor
    · rintro rfl
      rw [folded] at isMark
      cases isMark
    · rintro rfl
      rw [letter] at isMark
      cases isMark

end Character

namespace Text

/-- The text with ASCII letters in their small forms. -/
def fold (text : Text) : Text := text.map Character.fold

@[simp] theorem fold_nil : fold [] = [] := rfl

@[simp] theorem fold_cons (char : Character) (rest : Text) :
    fold (char :: rest) = char.fold :: fold rest := rfl

theorem fold_append (front rest : Text) :
    fold (front ++ rest) = fold front ++ fold rest :=
  List.map_append

@[simp] theorem length_fold (text : Text) : (fold text).length = text.length :=
  List.length_map _

theorem fold_take (text : Text) (count : Nat) :
    fold (text.take count) = (fold text).take count := List.map_take

theorem fold_drop (text : Text) (count : Nat) :
    fold (text.drop count) = (fold text).drop count := List.map_drop

theorem fold_intercalate (separator : Text) (pieces : List Text) :
    fold (separator.intercalate pieces)
      = (fold separator).intercalate (pieces.map fold) := by
  induction pieces with
  | nil => rfl
  | cons first rest induction =>
      cases rest with
      | nil => simp
      | cons second rest =>
          rw [List.map_cons] at induction ⊢
          rw [List.intercalate_cons_cons, fold_append, fold_append, induction,
            List.map_cons, List.intercalate_cons_cons]

theorem upper_fold (text : Text) : upper (fold text) = upper text := by
  induction text with
  | nil => rfl
  | cons char rest induction =>
      rw [fold_cons, upper_cons, upper_cons, char.upper_fold, induction]

theorem upper_eq_of_fold {text other : Text} (same : fold text = fold other) :
    upper text = upper other := by
  rw [← upper_fold text, same, upper_fold]

theorem isPlainName_fold (text : Text) :
    isPlainName (fold text) = isPlainName text := by
  have classes : (isWordChar ∘ Character.fold) = isWordChar :=
    funext Character.isWordChar_fold
  rw [isPlainName, isPlainName, fold, List.all_map, classes,
    List.isEmpty_map]

theorem head?_fold_eq_iff {text : Text} {mark : Character}
    (isMark : mark.isIn Char.isAlpha = false) :
    (fold text).head? = some mark ↔ text.head? = some mark := by
  cases text with
  | nil => rfl
  | cons char rest => simp [Character.fold_eq_iff isMark]

end Text

end SchemaSheet
