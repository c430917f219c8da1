import SchemaSheet.Text.Blank
import SchemaSheet.Text.Uppercase

/-!
# Upper case

Upper case takes a text character by character.  It leaves nothing out, it keeps
blanks as they are, and it makes no blank of another character.
-/

namespace SchemaSheet

namespace Text

/-- Where the upper case of a character comes from. -/
theorem upperChar_cases (char : Char) :
    (char.toNat < 0x80 ∧ upperChar char = [char.toUpper])
      ∨ (∃ entry ∈ caseExpansions, upperChar char = entry.2.map Char.ofNat)
      ∨ (∃ run ∈ caseRuns, run.covers char.toNat = true
        ∧ upperChar char = [Char.ofNat (run.map char.toNat)])
      ∨ upperChar char = [char] := by
  unfold upperChar
  split
  case _ ascii => exact .inl ⟨ascii, rfl⟩
  case _ =>
    split
    case _ codes found =>
      obtain ⟨before, after, divided, -⟩ := List.lookup_eq_some_iff.mp found
      exact .inr (.inl ⟨(char.toNat, codes), by simp [divided], rfl⟩)
    case _ =>
      split
      case _ run found =>
        have covered := List.find?_some found
        exact .inr (.inr (.inl
          ⟨run, List.mem_of_find?_eq_some found, covered, rfl⟩))
      case _ => exact .inr (.inr (.inr rfl))

theorem upperChar_ne_nil (char : Char) : upperChar char ≠ [] := by
  have expansions : ∀ entry ∈ caseExpansions, entry.2 ≠ [] := by
    decide
  rcases upperChar_cases char with ⟨-, made⟩ | ⟨entry, listed, made⟩
    | ⟨run, -, -, made⟩ | made
  · simp [made]
  · simpa [made] using expansions entry listed
  · simp [made]
  · simp [made]

theorem upper_ne_nil {text : Text} (nonempty : text ≠ []) :
    upper text ≠ [] := by
  cases text with
  | nil => exact absurd rfl nonempty
  | cons char rest =>
      intro empty
      have first := (List.append_eq_nil_iff.mp empty).1
      cases char with
      | of char =>
          exact upperChar_ne_nil char (List.map_eq_nil_iff.mp first)
      | half index => cases first

theorem upper_cons (char : Character) (rest : Text) :
    upper (char :: rest) = char.upper ++ upper rest :=
  List.flatMap_cons

theorem upper_append (front rest : Text) :
    upper (front ++ rest) = upper front ++ upper rest :=
  List.flatMap_append

theorem upper_blank {char : Character} (blank : isBlank char = true) :
    char.upper = [char] :=
  forall_isBlank (P := fun char => char.upper = [char]) (by decide +kernel)
    blank

theorem isBlank_ofNat {code : Nat}
    (outside : CodeRange.anyHolds blankRanges code = false) :
    isBlank (.of (Char.ofNat code)) = false := by
  have known : (Char.ofNat code).toNat = code
      ∨ (Char.ofNat code).toNat = 0 := by
    by_cases valid : code.isValidChar
    · exact .inl (congrArg Char.toNat (dif_pos valid))
    · exact .inr (congrArg Char.toNat (dif_neg valid))
  rw [isBlank, Character.code]
  rcases known with same | none
  · rw [same]
    exact outside
  · rw [none]
    rfl

/-- The range of what a run of letters maps to. -/
def targets (run : CaseRun) : CodeRange :=
  (run.target, run.target + (run.last - run.first))

theorem isBlank_map {run : CaseRun} (given : run ∈ caseRuns) {code : Nat}
    (covered : run.covers code = true) :
    isBlank (.of (Char.ofNat (run.map code))) = false := by
  have apart : CodeRange.apart (caseRuns.map targets) blankRanges = true := by
    decide +kernel
  have within := CodeRange.holds_iff.mp (Bool.and_eq_true_iff.mp covered).1
  have inside : (targets run).holds (run.map code) = true := by
    rw [CodeRange.holds_iff]
    simp only [targets, CaseRun.map]
    omega
  apply isBlank_ofNat
  exact CodeRange.anyHolds_of_apart apart
    (List.any_eq_true.mpr ⟨_, List.mem_map_of_mem given, inside⟩)

/-- Upper case makes no blank of another character. -/
theorem not_blank_of_mem_upper {char other : Character}
    (solid : isBlank char = false) (member : other ∈ char.upper) :
    isBlank other = false := by
  have small : ∀ code < 0x80, isBlank (.of (Char.ofNat code)) = false →
      isBlank (.of (Char.ofNat code).toUpper) = false := by
    decide +kernel
  have expanded : ∀ entry ∈ caseExpansions, ∀ code ∈ entry.2,
      isBlank (.of (Char.ofNat code)) = false := by
    decide +kernel
  cases char with
  | half index =>
      rw [List.mem_singleton.mp member]
      exact solid
  | of char =>
      obtain ⟨letter, made, rfl⟩ := List.mem_map.mp member
      rcases upperChar_cases char with ⟨ascii, cased⟩ | ⟨entry, listed, cased⟩
        | ⟨run, listed, covered, cased⟩ | cased
      · rw [cased] at made
        rw [List.mem_singleton.mp made, ← Char.ofNat_toNat char]
        apply small char.toNat ascii
        rwa [Char.ofNat_toNat]
      · rw [cased] at made
        obtain ⟨code, inside, rfl⟩ := List.mem_map.mp made
        exact expanded entry listed code inside
      · rw [cased] at made
        rw [List.mem_singleton.mp made]
        exact isBlank_map listed covered
      · rw [cased] at made
        rw [List.mem_singleton.mp made]
        exact solid

theorem upper_of_blank {text : Text}
    (blank : ∀ char ∈ text, isBlank char = true) : upper text = text := by
  induction text with
  | nil => rfl
  | cons char rest induction =>
      obtain ⟨first, others⟩ := List.forall_mem_cons.mp blank
      rw [upper_cons, upper_blank first, induction others]
      rfl

end Text

end SchemaSheet
