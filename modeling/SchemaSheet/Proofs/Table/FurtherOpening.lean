import Mathlib.Data.List.Forall2
import SchemaSheet.Proofs.Settings.Opening
import SchemaSheet.Proofs.Table.Outcome
import SchemaSheet.Script.Statement

/-!
# Further openings

Openings are looked at when the declarations are already delimited.  Further
ones take away the columns whose declarations begin with them and change nothing
else: neither where a script is found to have no table, nor the declarations,
nor the columns that remain.
-/

namespace SchemaSheet

namespace Declaration

/-- The declaration begins with the words, unquoted and in whatever case. -/
def BeginsWith (words : List Text) (declaration : List Token) : Prop :=
  ∃ front rest, declaration = front ++ rest
    ∧ List.Forall₂
      (fun (word : Text) (token : Token) =>
        token.kind = .word ∧ token.upper = Text.upper word)
      words front

theorem opens_map_upper_iff {words : List Text} {declaration : List Token} :
    Opening.opens (words.map Text.upper) declaration = true
      ↔ BeginsWith words declaration := by
  induction words generalizing declaration with
  | nil =>
      constructor
      · exact fun _ => ⟨[], declaration, rfl, .nil⟩
      · exact fun _ => by cases declaration <;> rfl
  | cons word words induction =>
      cases declaration with
      | nil =>
          constructor
          · exact nofun
          · -- A word needs a token.
            rintro ⟨front, rest, split, matched⟩
            cases matched
            cases split
      | cons token tokens =>
          rw [List.map_cons, Opening.opens, Bool.and_eq_true, induction]
          simp only [Token.isThe, Token.isWord, Bool.and_eq_true, beq_iff_eq]
          constructor
          · rintro ⟨here, front, rest, rfl, matched⟩
            exact ⟨token :: front, rest, rfl, .cons here matched⟩
          · rintro ⟨_, rest, split, matched⟩
            cases matched with
            | cons here later =>
                cases split
                exact ⟨here, _, rest, rfl, later⟩

instance (words : List Text) (declaration : List Token) :
    Decidable (BeginsWith words declaration) :=
  decidable_of_iff _ opens_map_upper_iff

/-- Neither letter case nor the blanks between the words matter. -/
example : BeginsWith (Text.words " period\tfor")
    (Token.stream "Period FOR x") := by
  decide +kernel

/-- The declaration begins with the words of none of the texts. -/
def Avoids (texts : List Text) (declaration : List Token) : Prop :=
  ∀ item ∈ texts, ¬BeginsWith item.words declaration

instance (texts : List Text) (declaration : List Token) :
    Decidable (Avoids texts declaration) :=
  inferInstanceAs
    (Decidable (∀ item ∈ texts, ¬BeginsWith item.words declaration))

theorem isClause_eq_true_iff {openings : List Opening}
    {declaration : List Token} :
    isClause openings declaration = true
      ↔ ∃ opening ∈ openings, opening.opens declaration = true :=
  List.any_eq_true

theorem isClause_congr {openings others : List Opening}
    (same : ∀ opening, opening ∈ openings ↔ opening ∈ others) :
    isClause openings = isClause others := by
  funext declaration
  rw [Bool.eq_iff_iff, isClause_eq_true_iff, isClause_eq_true_iff]
  simp only [same]

end Declaration

/-- The further openings are the given ones and those that the texts give. -/
def Opening.Widens (extra : List Text) (openings further : List Opening) :
    Prop :=
  ∀ opening, opening ∈ further
    ↔ opening ∈ openings ∨ ∃ item ∈ extra, Settings.openingIn item = opening

theorem Declaration.isClause_of_widens {extra : List Text}
    {openings further : List Opening}
    (widens : Opening.Widens extra openings further)
    (declaration : List Token) :
    isClause further declaration = true
      ↔ isClause openings declaration = true ∨ ¬Avoids extra declaration := by
  simp only [isClause_eq_true_iff, Avoids, not_forall, not_not, exists_prop]
  constructor
  · rintro ⟨opening, member, opens⟩
    rcases (widens opening).mp member with old | ⟨item, listed, rfl⟩
    · exact .inl ⟨opening, old, opens⟩
    · exact .inr ⟨item, listed, opens_map_upper_iff.mp opens⟩
  · rintro (⟨opening, old, opens⟩ | ⟨item, listed, begins⟩)
    · exact ⟨opening, (widens opening).mpr (.inl old), opens⟩
    · exact ⟨_, (widens _).mpr (.inr ⟨item, listed, rfl⟩),
        opens_map_upper_iff.mpr begins⟩

namespace Located

/-- The declarations that declare a column, each with its column. -/
def declaring (openings : List Opening) (located : Located) (closing : Nat) :
    List (List Token × Column) :=
  (Block.declarations (located.block closing)).filterMap fun declaration =>
    (located.columnOf? openings declaration).map fun column =>
      (declaration, column)

theorem map_snd_declaring (openings : List Opening) (located : Located)
    (closing : Nat) :
    (located.declaring openings closing).map Prod.snd
      = located.columns openings closing :=
  map_snd_noted (fun declaration => declaration) openings located closing

theorem declaring_eq_nil_iff {openings : List Opening} {located : Located}
    {closing : Nat} :
    located.declaring openings closing = []
      ↔ located.columns openings closing = [] := by
  rw [← map_snd_declaring, List.map_eq_nil_iff]

/-- The script is read as the declarations of a block that ends at the given
index: they all get a verdict, and the columns among them make the table. -/
structure ReadsAs [Splitter] (openings : List Opening) (script : Text)
    (located : Located) (closing : Nat) : Prop where
  survey : Survey.ofScript openings (some script)
    = .ok
      { header := located.header
        closing
        verdicts := (Block.declarations (located.block closing)).map
          (Verdict.on openings located.statement) }
  refused : ∀ name count,
    Table.parse openings (some script) = .error (.noColumnsParsed name count)
      ↔ located.declaring openings closing = []
        ∧ name = located.header.name.text
        ∧ count = (Block.declarations (located.block closing)).length
  accepted : ∀ table, Table.parse openings (some script) = .ok table
    ↔ table.name = located.header.name.text
      ∧ table.schema = located.header.schema
      ∧ table.columns = (located.declaring openings closing).map Prod.snd

theorem IsFirst.readsAs [Splitter] {script : Text} {located : Located}
    {closing : Nat} (first : located.IsFirst script)
    (closed : located.Closes closing) (openings : List Opening) :
    located.ReadsAs openings script closing := by
  have ends := first.closeOf_eq_ok_iff.mpr closed
  have reading : Table.parse openings (some script) = located.read openings :=
    Table.parse_of_isFirst first
  have ending := read_of_closed openings ends
  refine ⟨?survey, ?refused, ?accepted⟩
  case survey =>
    have notBlank := mt Script.isBlankText_iff.mp first.not_absent
    have found := find?_eq_some_iff.mpr first
    simp only [Survey.ofScript, notBlank, found, if_false,
      Bool.false_eq_true]
    exact ofLocated_eq_ok_iff.mpr ⟨closing, ends, rfl⟩
  case refused =>
    intro name count
    rw [reading, declaring_eq_nil_iff]
    rcases ending with ⟨none, failed⟩ | ⟨table, made, -, -, columns⟩
    · rw [failed]
      simp [none, eq_comm]
    · have nonempty : located.columns openings closing ≠ [] :=
        columns ▸ table.columns_ne_nil
      simp [made, nonempty]
  case accepted =>
    intro table
    rw [reading, map_snd_declaring]
    rcases ending with ⟨none, failed⟩ | ⟨other, made, name, schema, columns⟩
    · simp [failed, none, table.columns_ne_nil]
    · rw [made, Except.ok.injEq]
      constructor
      · rintro rfl
        exact ⟨name, schema, columns⟩
      · rintro ⟨sameName, sameSchema, sameColumns⟩
        exact Table.eq_of_parts (name.trans sameName.symm)
          (schema.trans sameSchema.symm) (columns.trans sameColumns.symm)

theorem columnOf?_of_widens {extra : List Text}
    {openings further : List Opening}
    (widens : Opening.Widens extra openings further) (located : Located)
    (declaration : List Token) :
    located.columnOf? further declaration
      = (located.columnOf? openings declaration).filter fun _ =>
        decide (Declaration.Avoids extra declaration) := by
  have clause := Declaration.isClause_of_widens widens declaration
  unfold columnOf?
  by_cases before : Declaration.isClause openings declaration = true
  · rw [if_pos (clause.mpr (.inl before)), if_pos before]
    rfl
  · rw [if_neg before]
    by_cases avoids : Declaration.Avoids extra declaration
    · have remains : ¬Declaration.isClause further declaration = true := by
        intro isClause
        exact (clause.mp isClause).elim before (not_not_intro avoids)
      rw [if_neg remains, decide_eq_true avoids]
      cases Declaration.column? located.statement declaration <;> rfl
    · rw [if_pos (clause.mpr (.inr avoids)), decide_eq_false avoids]
      cases Declaration.column? located.statement declaration <;> rfl

/-- Of the columns, those remain whose declarations begin with the words of none
of the texts. -/
theorem declaring_of_widens {extra : List Text}
    {openings further : List Opening}
    (widens : Opening.Widens extra openings further) (located : Located)
    (closing : Nat) :
    located.declaring further closing
      = (located.declaring openings closing).filter fun entry =>
        decide (Declaration.Avoids extra entry.1) := by
  rw [declaring, declaring, List.filter_filterMap]
  congr 1
  funext declaration
  rw [columnOf?_of_widens widens, Option.filter_map]
  rfl

end Located

/-- A failure that comes before the declarations are looked at. -/
inductive ParseFault.Early : ParseFault → Prop where
  | emptyInput : Early .emptyInput
  | tableNameNotFound : Early .tableNameNotFound
  | columnBlockNotFound (offset depth : Nat) :
      Early (.columnBlockNotFound offset depth)

namespace Table

variable [Splitter]

/-- What further openings make of a script: it fails as early and in the same
way, or the same declarations are looked at, and of the columns those remain
whose declarations begin with the words of none of the texts. -/
inductive Narrows (extra : List Text) (openings further : List Opening) :
    Option Text → Prop where
  | early {script : Option Text} {fault : ParseFault} (early : fault.Early)
      (whole : parse openings script = .error fault)
      (rest : parse further script = .error fault) :
      Narrows extra openings further script
  | read {script : Text} {located : Located} {closing : Nat}
      (first : located.IsFirst script) (closed : located.Closes closing)
      (whole : located.ReadsAs openings script closing)
      (rest : located.ReadsAs further script closing)
      (remaining : located.declaring further closing
        = (located.declaring openings closing).filter fun entry =>
          decide (Declaration.Avoids extra entry.1)) :
      Narrows extra openings further (some script)

theorem narrows_of_widens {extra : List Text} {openings further : List Opening}
    (widens : Opening.Widens extra openings further) (script : Option Text) :
    Narrows extra openings further script := by
  have outcome := outcome_parse openings script
  generalize ends : parse openings script = result at outcome
  cases outcome with
  | emptyInput absent =>
      exact .early .emptyInput ends (parse_of_outcome (.emptyInput absent))
  | tableNameNotFound present headless =>
      exact .early .tableNameNotFound ends
        (parse_of_outcome (.tableNameNotFound present headless))
  | columnBlockNotFound first opening unclosed remaining =>
      exact .early (.columnBlockNotFound _ _) ends (parse_of_outcome
        (.columnBlockNotFound first opening unclosed remaining))
  | noColumnsParsed first closed rejected =>
      exact .read first closed (first.readsAs closed _)
        (first.readsAs closed _) (Located.declaring_of_widens widens _ _)
  | table first closed name schema columns =>
      exact .read first closed (first.readsAs closed _)
        (first.readsAs closed _) (Located.declaring_of_widens widens _ _)

/-- What further openings accept is accepted without them, with the same name
and schema and at least the same columns. -/
theorem Narrows.exists_whole {extra : List Text}
    {openings further : List Opening} {script : Option Text} {table : Table}
    (narrows : Narrows extra openings further script)
    (parsed : parse further script = .ok table) :
    ∃ whole, parse openings script = .ok whole ∧ whole.name = table.name
      ∧ whole.schema = table.schema
      ∧ table.columns.Sublist whole.columns := by
  cases narrows with
  | early early whole rest =>
      rw [rest] at parsed
      cases parsed
  | @read script located closing first closed whole rest remaining =>
      obtain ⟨name, schema, columns⟩ := (rest.accepted table).mp parsed
      have kept : table.columns.Sublist
          ((located.declaring openings closing).map Prod.snd) := by
        rw [columns, remaining]
        exact List.filter_sublist.map _
      have nonempty :
          (located.declaring openings closing).map Prod.snd ≠ [] := by
        intro empty
        rw [empty] at kept
        exact table.columns_ne_nil (List.sublist_nil.mp kept)
      let found : Table :=
        { name := located.header.name.text
          columns := (located.declaring openings closing).map Prod.snd
          schema := located.header.schema
          name_ne_nil := located.header.name.text_ne_nil
          columns_ne_nil := nonempty }
      exact ⟨found, (whole.accepted found).mpr ⟨rfl, rfl, rfl⟩, name.symm,
        schema.symm, kept⟩

end Table

namespace Text

/-- The texts differ in letter case, and in the blanks between the words, in
front of them and behind them, and in nothing else. -/
inductive Restates : Text → Text → Prop where
  | cased {first second : Text} (same : upper first = upper second) :
      Restates first second
  | spaced {words : List Text} {first second : Text}
      (left : Spells words first) (right : Spells words second) :
      Restates first second
  | trans {first second third : Text} (left : Restates first second)
      (right : Restates second third) : Restates first third

/-- The lists have the same texts but for letter case and blanks, in whatever
order and number. -/
structure SameItems (items others : List Text) : Prop where
  left : ∀ item ∈ items, ∃ other ∈ others, Restates item other
  right : ∀ other ∈ others, ∃ item ∈ items, Restates item other

end Text

namespace Settings

theorem openingIn_of_restates {first second : Text}
    (restates : Text.Restates first second) :
    openingIn first = openingIn second := by
  induction restates with
  | cased same =>
      rw [openingIn, openingIn, ← Text.words_upper, same, Text.words_upper]
  | spaced left right =>
      rw [openingIn, openingIn, Text.words_of_spells left,
        Text.words_of_spells right]
  | trans left right first second => exact first.trans second

theorem present_of_restates {first second : Text}
    (restates : Text.Restates first second)
    (present : Text.isBlankText first = false) :
    Text.isBlankText second = false := by
  rw [Bool.eq_false_iff, Ne, ← openingIn_eq_nil_iff] at present ⊢
  rwa [← openingIn_of_restates restates]

theorem exists_openingIn_iff {items others : List Text}
    (same : Text.SameItems items others) (opening : Opening) :
    (∃ item ∈ items, openingIn item = opening)
      ↔ ∃ other ∈ others, openingIn other = opening := by
  constructor
  · rintro ⟨item, member, rfl⟩
    obtain ⟨other, listed, restates⟩ := same.left item member
    exact ⟨other, listed, (openingIn_of_restates restates).symm⟩
  · rintro ⟨other, member, rfl⟩
    obtain ⟨item, listed, restates⟩ := same.right other member
    exact ⟨item, listed, openingIn_of_restates restates⟩

theorem openings_of_texts {settings : Settings} {items : List Text}
    (present : ∀ item ∈ items, Text.isBlankText item = false)
    (given : settings.get openingsKey = .array (items.map .text)) :
    ∃ openings, settings.openings = .ok openings
      ∧ Opening.Widens items Opening.standard openings := by
  rw [openings_of_array given]
  exact exists_addOpenings Opening.standard present

end Settings

theorem Survey.ofScript_congr [Splitter] {openings others : List Opening}
    (same : ∀ opening, opening ∈ openings ↔ opening ∈ others) :
    Survey.ofScript openings = Survey.ofScript others := by
  have verdict : Verdict.on openings = Verdict.on others := by
    funext statement declaration
    rw [Verdict.on, Verdict.on, Declaration.isClause_congr same]
  funext script
  simp only [Survey.ofScript, Survey.ofLocated, verdict]

namespace Table

/-- Further texts in the settings only filter.  What is read does not depend on
the order and number of the texts, their letter case or the blanks in them, and
a list with a value that is no text, or a blank one, is refused. -/
theorem further_openings_filter [Splitter] {items extra : List Text}
    {settings wider : Settings}
    (present : ∀ item ∈ items ++ extra, Text.isBlankText item = false)
    (given : settings.get Settings.openingsKey = .array (items.map .text))
    (more : wider.get Settings.openingsKey
      = .array ((items ++ extra).map .text)) :
    ∃ openings further, settings.openings = .ok openings
      ∧ wider.openings = .ok further
      ∧ (∀ script, Narrows extra openings further script)
      ∧ (∀ script table, parse further script = .ok table →
        ∃ whole, parse openings script = .ok whole ∧ whole.name = table.name
          ∧ whole.schema = table.schema
          ∧ table.columns.Sublist whole.columns)
      ∧ (∀ (other : Settings) (others : List Text),
        other.get Settings.openingsKey = .array (others.map .text) →
          Text.SameItems items others →
            ∃ same, other.openings = .ok same
              ∧ ∀ script, parse same script = parse openings script
                ∧ parseEvents same script = parseEvents openings script)
      ∧ ∀ (broken : Settings) (values : List Json),
        broken.get Settings.openingsKey = .array values →
          (∃ value ∈ values, Settings.Unfit value) →
            ∃ value ∈ values, Settings.Unfit value
              ∧ broken.openings = .error (.invalidOpening value)
              ∧ (SettingsFault.invalidOpening value).fault.code
                = "CONFIGURATION_ERROR" := by
  obtain ⟨presentItems, -⟩ := List.forall_mem_append.mp present
  obtain ⟨openings, accepted, listed⟩ :=
    Settings.openings_of_texts presentItems given
  obtain ⟨further, acceptedMore, listedMore⟩ :=
    Settings.openings_of_texts present more
  have widens : Opening.Widens extra openings further := by
    intro opening
    rw [listedMore, listed, or_assoc]
    simp only [List.mem_append, or_and_right, exists_or]
  refine ⟨openings, further, accepted, acceptedMore, ?narrows, ?succeeds,
    ?restated, ?refused⟩
  case narrows => exact narrows_of_widens widens
  case succeeds =>
    intro script table parsed
    exact (narrows_of_widens widens script).exists_whole parsed
  case restated =>
    intro other others givenOther sameItems
    have presentOther : ∀ text ∈ others, Text.isBlankText text = false := by
      intro text member
      obtain ⟨item, inItems, restates⟩ := sameItems.right text member
      exact Settings.present_of_restates restates (presentItems item inItems)
    obtain ⟨same, acceptedOther, listedOther⟩ :=
      Settings.openings_of_texts presentOther givenOther
    refine ⟨same, acceptedOther, fun script => ?_⟩
    have surveys : Survey.ofScript same = Survey.ofScript openings := by
      apply Survey.ofScript_congr
      intro opening
      rw [listedOther, listed, Settings.exists_openingIn_iff sameItems]
    simp only [parse, parseEvents, surveys, and_self]
  case refused =>
    intro broken values givenBroken unfit
    obtain ⟨value, member, unfitValue, failed⟩ :=
      Settings.addOpenings_of_unfit Opening.standard unfit
    refine ⟨value, member, unfitValue, ?_, rfl⟩
    rw [Settings.openings_of_array givenBroken, failed]

/-- Settings with nothing but a list of openings. -/
def settingsOf (values : List Json) : Settings :=
  [(Settings.openingsKey, .array values)]

theorem get_settingsOf (values : List Json) :
    (settingsOf values).get Settings.openingsKey = .array values := rfl

/-- The law holds of a further text of two words with blanks around them, of a
list that has one text twice, and of one that has a blank text. -/
theorem further_openings_filter_period :
    ∃ openings further, (settingsOf [.text "row"]).openings = .ok openings
      ∧ (settingsOf [.text "row", .text " period\tfor"]).openings = .ok further
      ∧ (∀ script, Narrows [" period\tfor"] openings further script)
      ∧ (∃ same, (settingsOf [.text "ROW ", .text "row"]).openings = .ok same
        ∧ ∀ script, parse same script = parse openings script)
      ∧ ∃ value ∈ ([.text "row", .text "\t"] : List Json),
        (settingsOf [.text "row", .text "\t"]).openings
          = .error (.invalidOpening value) := by
  have present : ∀ item ∈ (["row"] ++ [" period\tfor"] : List Text),
      Text.isBlankText item = false := by decide
  have restates : Text.Restates "row" "ROW " := by
    have cased : Text.Restates "row" "ROW" := .cased (by decide)
    have bare : Text.Spells ["ROW"] "ROW" := Text.words_eq_iff.mp (by decide)
    have spaced : Text.Spells ["ROW"] "ROW " := Text.words_eq_iff.mp (by decide)
    exact cased.trans (.spaced bare spaced)
  have sameItems : Text.SameItems ["row"] ["ROW ", "row"] := by
    constructor
    · simpa using .inl restates
    · simpa using ⟨restates, .cased rfl⟩
  have unfit : ∃ value ∈ ([.text "row", .text "\t"] : List Json),
      Settings.Unfit value := by
    refine ⟨.text "\t", by simp, ?_⟩
    rintro text ⟨⟩
    decide
  obtain ⟨openings, further, accepted, acceptedMore, narrows, -, restated,
    refused⟩ := @further_openings_filter Script.splitter ["row"] _ _ _ present
      (get_settingsOf _) (get_settingsOf _)
  obtain ⟨same, acceptedSame, reads⟩ :=
    restated (settingsOf _) _ (get_settingsOf _) sameItems
  obtain ⟨value, member, -, failed, -⟩ :=
    refused (settingsOf _) _ (get_settingsOf _) unfit
  exact ⟨openings, further, accepted, acceptedMore, narrows,
    ⟨same, acceptedSame, fun script => (reads script).1⟩,
    ⟨value, member, failed⟩⟩

end Table

end SchemaSheet
