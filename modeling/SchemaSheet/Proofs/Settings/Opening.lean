import SchemaSheet.Proofs.Text.Words
import SchemaSheet.Settings

/-!
# Openings in the settings

The openings that settings give are the standard ones and, for each text in
their list, its words in upper case.  A value in the list that is no text, or
nothing but blanks, makes the settings unusable.
-/

namespace SchemaSheet

namespace Settings

/-- The opening that a text gives. -/
def openingIn (item : Text) : Opening := item.words.map Text.upper

/-- The value gives no opening: it is no text, or a blank one. -/
def Unfit (value : Json) : Prop :=
  ∀ text, value = .text text → Text.isBlankText text = true

theorem openingOf_cases (item : Json) :
    (∃ text, item = .text text ∧ Text.isBlankText text = false
      ∧ openingOf item = .ok (openingIn text))
      ∨ (Unfit item ∧ openingOf item = .error (.invalidOpening item)) := by
  unfold openingOf
  split
  case _ text =>
    split
    case _ empty =>
      refine .inr ⟨?_, rfl⟩
      rintro other ⟨⟩
      exact Text.words_eq_nil_iff.mp empty
    case _ nonempty =>
      refine .inl ⟨text, rfl, Bool.eq_false_iff.mpr ?_, rfl⟩
      intro blank
      exact nonempty (Text.words_eq_nil_iff.mpr blank)
  case _ notText => exact .inr ⟨fun text same => absurd same (notText text), rfl⟩

theorem openingIn_eq_nil_iff {text : Text} :
    openingIn text = [] ↔ Text.isBlankText text = true := by
  rw [openingIn, List.map_eq_nil_iff, Text.words_eq_nil_iff]

theorem openingOf_text {item : Text} (present : Text.isBlankText item = false) :
    openingOf (.text item) = .ok (openingIn item) := by
  rcases openingOf_cases (.text item) with ⟨_, ⟨⟩, -, made⟩ | ⟨unfit, -⟩
  · exact made
  · exact absurd (unfit item rfl) (Bool.eq_false_iff.mp present)

/-- Adding openings adds the ones that the values give, or fails at one that
gives none. -/
theorem addOpenings_spec (start : List Opening) (items : List Json) :
    match addOpenings start items with
    | .ok openings =>
        (∀ item ∈ items, ∃ opening, openingOf item = .ok opening)
          ∧ ∀ opening, opening ∈ openings
            ↔ opening ∈ start ∨ ∃ item ∈ items, openingOf item = .ok opening
    | .error fault => ∃ item ∈ items, openingOf item = .error fault := by
  induction items generalizing start with
  | nil => simp [addOpenings]
  | cons item rest induction =>
      cases made : openingOf item with
      | error fault =>
          simp only [addOpenings, made]
          exact ⟨item, List.mem_cons_self, made⟩
      | ok opening =>
          obtain ⟨next, listed, goesOn⟩ : ∃ next : List Opening,
              (∀ other, other ∈ next ↔ other ∈ start ∨ other = opening)
                ∧ addOpenings start (item :: rest) = addOpenings next rest := by
            simp only [addOpenings, made]
            split
            case _ known =>
              have member := List.contains_iff_mem.mp known
              refine ⟨start, fun other => ?_, rfl⟩
              exact ⟨.inl, fun either => either.elim id (· ▸ member)⟩
            case _ =>
              exact ⟨start ++ [opening], fun other => by simp, rfl⟩
          have later := induction next
          rw [goesOn]
          cases added : addOpenings next rest with
          | error fault =>
              simp only [added] at later ⊢
              obtain ⟨bad, member, failed⟩ := later
              exact ⟨bad, List.mem_cons_of_mem _ member, failed⟩
          | ok openings =>
              simp only [added] at later ⊢
              refine ⟨List.forall_mem_cons.mpr ⟨⟨opening, made⟩, later.1⟩, ?_⟩
              intro other
              rw [later.2, listed, or_assoc, eq_comm]
              simp only [List.mem_cons, exists_eq_or_imp, made,
                Except.ok.injEq]

theorem mem_addOpenings {start openings : List Opening} {items : List Json}
    (added : addOpenings start items = .ok openings) (opening : Opening) :
    opening ∈ openings
      ↔ opening ∈ start ∨ ∃ item ∈ items, openingOf item = .ok opening := by
  have spec := addOpenings_spec start items
  rw [added] at spec
  exact spec.2 opening

theorem exists_of_addOpenings {start : List Opening} {items : List Json}
    {fault : SettingsFault} (failed : addOpenings start items = .error fault) :
    ∃ item ∈ items, openingOf item = .error fault := by
  have spec := addOpenings_spec start items
  rw [failed] at spec
  exact spec

theorem exists_addOpenings (start : List Opening) {items : List Text}
    (present : ∀ item ∈ items, Text.isBlankText item = false) :
    ∃ openings, addOpenings start (items.map .text) = .ok openings
      ∧ ∀ opening, opening ∈ openings
        ↔ opening ∈ start ∨ ∃ item ∈ items, openingIn item = opening := by
  cases added : addOpenings start (items.map .text) with
  | error fault =>
      obtain ⟨item, member, failed⟩ := exists_of_addOpenings added
      obtain ⟨text, listed, rfl⟩ := List.mem_map.mp member
      rw [openingOf_text (present text listed)] at failed
      cases failed
  | ok openings =>
      refine ⟨openings, rfl, fun opening => ?_⟩
      rw [mem_addOpenings added]
      apply or_congr_right
      constructor
      · rintro ⟨_, listed, made⟩
        obtain ⟨item, member, rfl⟩ := List.mem_map.mp listed
        rw [openingOf_text (present item member)] at made
        exact ⟨item, member, Except.ok.inj made⟩
      · rintro ⟨item, member, rfl⟩
        exact ⟨.text item, List.mem_map_of_mem member,
          openingOf_text (present item member)⟩

/-- A value that gives no opening makes adding fail, at it or at another such
value. -/
theorem addOpenings_of_unfit (start : List Opening) {items : List Json}
    (unfit : ∃ item ∈ items, Unfit item) :
    ∃ item ∈ items, Unfit item
      ∧ addOpenings start items = .error (.invalidOpening item) := by
  obtain ⟨bad, member, unfitBad⟩ := unfit
  have spec := addOpenings_spec start items
  cases added : addOpenings start items with
  | error fault =>
      obtain ⟨item, listed, failed⟩ := exists_of_addOpenings added
      rcases openingOf_cases item with ⟨text, rfl, present, made⟩
        | ⟨unfitItem, told⟩
      · rw [made] at failed
        cases failed
      · rw [told] at failed
        cases failed
        exact ⟨item, listed, unfitItem, rfl⟩
  | ok openings =>
      rw [added] at spec
      obtain ⟨opening, made⟩ := spec.1 bad member
      rcases openingOf_cases bad with ⟨text, rfl, present, -⟩ | ⟨-, told⟩
      · rw [unfitBad text rfl] at present
        cases present
      · rw [told] at made
        cases made

theorem openings_of_array {settings : Settings} {items : List Json}
    (given : settings.get openingsKey = .array items) :
    settings.openings = addOpenings Opening.standard items := by
  rw [openings, given]
  cases items with
  | nil => rfl
  | cons item rest => rfl

end Settings

end SchemaSheet
