import Mathlib.Data.List.Forall2
import SchemaSheet.Proofs.Table.HeaderLocality

/-!
# The grammar of a header

What a header may look like, with every part that may be missing either there
or not.  The search takes each of these parts whenever it can and never goes
back.  `first?_eq_some_iff` says that nothing is lost by that: it finds the
first place at which the grammar has a header.
-/

namespace SchemaSheet

namespace Header

/-- The tokens are the given words, whatever their case. -/
def Spells (words : List Text) (tokens : List IndexedToken) : Prop :=
  List.Forall₂ (fun word token => token.1.isThe word = true) words tokens

/-- The tokens are the given words, or there are none. -/
def MaySpell (words : List Text) (tokens : List IndexedToken) : Prop :=
  tokens = [] ∨ Spells words tokens

/-- The tokens are one modifier, or there are none. -/
def MayModify (tokens : List IndexedToken) : Prop :=
  tokens = []
    ∨ ∃ token, tokens = [token] ∧ token.1.isAnyOf modifiers = true

/-- The token is a name, and its content is the given one. -/
def IsNamed (token : IndexedToken) (name : PlainName) : Prop :=
  token.1.isName = true ∧ token.1.content = name.text

/-- Names with points between them. -/
inductive Chain : List IndexedToken → List PlainName → Prop where
  | single {token : IndexedToken} {name : PlainName}
      (named : IsNamed token name) : Chain [token] [name]
  | dotted {token point : IndexedToken} {tokens : List IndexedToken}
      {name : PlainName} {names : List PlainName} (named : IsNamed token name)
      (isDot : point.1.kind = .dot) (goesOn : Chain tokens names) :
      Chain (token :: point :: tokens) (name :: names)

/-- The tokens of a header, from `CREATE` to the parenthesis. -/
inductive Phrase : List IndexedToken → Header → Prop where
  | intro {create table paren : IndexedToken}
      {replacement modifier condition chain : List IndexedToken}
      {header : Header}
      (isCreate : create.1.isThe "CREATE" = true)
      (replaces : MaySpell ["OR", "REPLACE"] replacement)
      (modifies : MayModify modifier)
      (isTable : table.1.isThe "TABLE" = true)
      (conditional : MaySpell ["IF", "NOT", "EXISTS"] condition)
      (chained : Chain chain (header.qualifiers ++ [header.name]))
      (opens : paren.1.kind = .openParen)
      (stands : paren.2 = header.opening) :
      Phrase (create :: (replacement ++ (modifier ++ table :: (condition
        ++ (chain ++ [paren]))))) header

/-- A header stands at the front of the tokens. -/
def Begins (tokens : List IndexedToken) (header : Header) : Prop :=
  ∃ phrase after, tokens = phrase ++ after ∧ Phrase phrase header

theorem isThe_ne {token : Token} {word other : Text}
    (isThe : token.isThe word = true) (apart : word ≠ other) :
    token.isThe other = false := by
  simp only [Token.isThe, Bool.and_eq_true, beq_iff_eq] at isThe
  simp [Token.isThe, isThe.2, apart]

theorem isThe_of_isAnyOf {token : Token} {words : List Text} {word : Text}
    (isAnyOf : token.isAnyOf words = true) (apart : word ∉ words) :
    token.isThe word = false := by
  simp only [Token.isAnyOf, Bool.and_eq_true,
    List.contains_iff_mem] at isAnyOf
  apply Bool.eq_false_iff.mpr
  intro isThe
  simp only [Token.isThe, Bool.and_eq_true, beq_iff_eq] at isThe
  rw [isThe.2] at isAnyOf
  exact apart isAnyOf.2

theorem isAnyOf_of_isThe {token : Token} {words : List Text} {word : Text}
    (isThe : token.isThe word = true) (apart : word ∉ words) :
    token.isAnyOf words = false := by
  apply Bool.eq_false_iff.mpr
  intro isAnyOf
  rw [isThe_of_isAnyOf isAnyOf apart] at isThe
  cases isThe

/-! ### What the search takes is in the grammar -/

theorem exists_of_skipReplacement (tokens : List IndexedToken) :
    ∃ replacement, tokens = replacement ++ skipReplacement tokens
      ∧ MaySpell ["OR", "REPLACE"] replacement := by
  match tokens with
  | first :: second :: rest =>
      rw [skipReplacement]
      split
      case _ both =>
        have words := Bool.and_eq_true_iff.mp both
        exact ⟨[first, second], rfl,
          .inr (.cons words.1 (.cons words.2 .nil))⟩
      case _ => exact ⟨[], rfl, .inl rfl⟩
  | [_] | [] => exact ⟨[], rfl, .inl rfl⟩

theorem exists_of_skipModifier (tokens : List IndexedToken) :
    ∃ modifier, tokens = modifier ++ skipModifier tokens
      ∧ MayModify modifier := by
  match tokens with
  | first :: rest =>
      rw [skipModifier]
      split
      case _ isModifier => exact ⟨[first], rfl, .inr ⟨first, rfl, isModifier⟩⟩
      case _ => exact ⟨[], rfl, .inl rfl⟩
  | [] => exact ⟨[], rfl, .inl rfl⟩

theorem exists_of_skipCondition (tokens : List IndexedToken) :
    ∃ condition, tokens = condition ++ skipCondition tokens
      ∧ MaySpell ["IF", "NOT", "EXISTS"] condition := by
  match tokens with
  | first :: second :: third :: rest =>
      rw [skipCondition]
      split
      case _ all =>
        obtain ⟨both, last⟩ := Bool.and_eq_true_iff.mp all
        have words := Bool.and_eq_true_iff.mp both
        exact ⟨[first, second, third], rfl,
          .inr (.cons words.1 (.cons words.2 (.cons last .nil)))⟩
      case _ => exact ⟨[], rfl, .inl rfl⟩
  | [_, _] | [_] | [] => exact ⟨[], rfl, .inl rfl⟩

theorem pass?_eq_some_iff {word : Text} {tokens rest : List IndexedToken} :
    pass? word tokens = some rest
      ↔ ∃ token, tokens = token :: rest ∧ token.1.isThe word = true := by
  cases tokens with
  | nil => simp [pass?]
  | cons first later =>
      rw [pass?]
      constructor
      · intro passed
        split at passed
        case _ isThe =>
          cases passed
          exact ⟨first, rfl, isThe⟩
        case _ => cases passed
      · rintro ⟨token, same, isThe⟩
        cases same
        rw [if_pos isThe]

theorem names?_eq_some_iff {tokens : List IndexedToken} {header : Header} :
    names? tokens = some header
      ↔ ∃ chain paren after, tokens = chain ++ paren :: after
        ∧ Chain chain (header.qualifiers ++ [header.name])
        ∧ paren.1.kind = .openParen ∧ paren.2 = header.opening := by
  constructor
  · intro found
    induction tokens using names?.induct generalizing header with
    | case1 first next rest nameless =>
        simp [names?, nameless] at found
    | case2 first next rest name named isDot induction =>
        simp only [names?, named, isDot, if_true,
          Option.map_eq_some_iff] at found
        obtain ⟨inner, innerFound, rfl⟩ := found
        obtain ⟨chain, paren, after, rfl, chained, opens, stands⟩ :=
          induction innerFound
        exact ⟨first :: next :: chain, paren, after, rfl,
          .dotted (Token.plainName?_eq_some_iff.mp named) isDot chained, opens,
          stands⟩
    | case3 first next rest name named notDot isOpening =>
        simp only [names?, named, isOpening] at found
        cases found
        exact ⟨[first], next, rest, rfl,
          .single (Token.plainName?_eq_some_iff.mp named), isOpening, rfl⟩
    | case4 first next rest name named notDot notOpening =>
        simp [names?, named, notDot, notOpening] at found
    | case5 tokens short =>
        rw [names?] at found
        · cases found
        · exact short
  · rintro ⟨chain, paren, after, rfl, chained, opens, stands⟩
    obtain ⟨qualifiers, name, opening⟩ := header
    simp only at chained stands
    generalize all : qualifiers ++ [name] = names at chained
    have notDot : paren.1.kind ≠ .dot := by simp [opens]
    induction chained generalizing qualifiers with
    | single named =>
        have found := Token.plainName?_eq_some_iff.mpr named
        obtain ⟨rfl, same⟩ := List.append_eq_singleton_iff.mp all |>.elim id
          fun impossible => absurd impossible.2 (List.cons_ne_nil _ _)
        cases same
        simp [names?, found, opens, stands]
    | dotted named isDot goesOn induction =>
        have found := Token.plainName?_eq_some_iff.mpr named
        cases qualifiers with
        | nil =>
            cases all
            cases goesOn
        | cons qualifier qualifiers =>
            cases all
            have later := induction qualifiers rfl
            simp [names?, found, isDot, later]

/-! ### What is in the grammar is taken -/

theorem skipReplacement_of_maySpell {replacement rest : List IndexedToken}
    (replaces : MaySpell ["OR", "REPLACE"] replacement)
    (other : ∀ token ∈ rest.head?, token.1.isThe "OR" = false) :
    skipReplacement (replacement ++ rest) = rest := by
  rcases replaces with rfl | spelled
  · cases rest with
    | nil => rfl
    | cons first rest => exact skipReplacement_cons rest (other first rfl)
  · obtain ⟨first, _, isOr, behind, rfl⟩ :=
      List.forall₂_cons_left_iff.mp spelled
    obtain ⟨second, _, isReplace, nothing, rfl⟩ :=
      List.forall₂_cons_left_iff.mp behind
    cases nothing
    simp [skipReplacement, isOr, isReplace]

theorem skipModifier_of_mayModify {modifier rest : List IndexedToken}
    (modifies : MayModify modifier)
    (other : ∀ token ∈ rest.head?, token.1.isAnyOf modifiers = false) :
    skipModifier (modifier ++ rest) = rest := by
  rcases modifies with rfl | ⟨token, rfl, isModifier⟩
  · cases rest with
    | nil => rfl
    | cons first rest => simp [skipModifier, other first rfl]
  · simp [skipModifier, isModifier]

theorem skipCondition_of_maySpell {condition rest : List IndexedToken}
    (conditional : MaySpell ["IF", "NOT", "EXISTS"] condition)
    (other : ∀ token ∈ rest[1]?, token.1.isThe "NOT" = false) :
    skipCondition (condition ++ rest) = rest := by
  rcases conditional with rfl | spelled
  · match rest with
    | [] => rfl
    | [_] => rfl
    | [_, _] => rfl
    | first :: second :: third :: rest =>
        have noNot := other second rfl
        simp [skipCondition, noNot]
  · obtain ⟨first, _, isIf, behind, rfl⟩ :=
      List.forall₂_cons_left_iff.mp spelled
    obtain ⟨second, _, isNot, last, rfl⟩ :=
      List.forall₂_cons_left_iff.mp behind
    obtain ⟨third, _, isExists, nothing, rfl⟩ :=
      List.forall₂_cons_left_iff.mp last
    cases nothing
    simp [skipCondition, isIf, isNot, isExists]

/-- Behind the first name of a chain stands no word, so that a table may be
named like the words of a condition. -/
theorem Chain.second {chain after : List IndexedToken} {paren : IndexedToken}
    {names : List PlainName} (chained : Chain chain names)
    (opens : paren.1.kind = .openParen) (word : Text) :
    ∀ token ∈ (chain ++ paren :: after)[1]?, token.1.isThe word = false := by
  intro token second
  apply Token.isThe_eq_false
  cases chained with
  | single named =>
      cases second
      simp [opens]
  | dotted named isDot goesOn =>
      cases second
      simp [isDot]

theorem or_not_mem_modifiers : ("OR" : Text) ∉ modifiers := by decide

theorem table_not_mem_modifiers : ("TABLE" : Text) ∉ modifiers := by decide

theorem afterCreate?_eq_some_iff {create : IndexedToken}
    {tokens : List IndexedToken} {header : Header}
    (isCreate : create.1.isThe "CREATE" = true) :
    afterCreate? tokens = some header ↔ Begins (create :: tokens) header := by
  simp only [afterCreate?, Option.bind_eq_bind, Option.bind_eq_some_iff,
    pass?_eq_some_iff, names?_eq_some_iff]
  constructor
  · rintro ⟨rest, ⟨table, passed, isTable⟩, chain, paren, after, named,
      chained, opens, stands⟩
    obtain ⟨replacement, replaced, replaces⟩ :=
      exists_of_skipReplacement tokens
    obtain ⟨modifier, modified, modifies⟩ :=
      exists_of_skipModifier (skipReplacement tokens)
    obtain ⟨condition, conditioned, conditional⟩ :=
      exists_of_skipCondition rest
    refine ⟨_, after, ?_, .intro isCreate replaces modifies isTable
      conditional chained opens stands⟩
    rw [replaced, modified, passed, conditioned, named]
    simp
  · rintro ⟨phrase, after, whole, isPhrase⟩
    cases isPhrase with
    | @intro _ table paren replacement modifier condition chain _ _ replaces
        modifies isTable conditional chained opens stands =>
        have behind : tokens = replacement ++ (modifier ++ table :: (condition
            ++ (chain ++ paren :: after))) := by
          simpa using (List.cons.inj whole).2
        have notOr : ∀ token ∈ (modifier ++ table :: (condition
            ++ (chain ++ paren :: after))).head?,
            token.1.isThe "OR" = false := by
          intro token first
          rcases modifies with rfl | ⟨only, rfl, isModifier⟩
          · cases first
            exact isThe_ne isTable (by decide)
          · cases first
            exact isThe_of_isAnyOf isModifier or_not_mem_modifiers
        have notModifier : ∀ token ∈ (table :: (condition
            ++ (chain ++ paren :: after))).head?,
            token.1.isAnyOf modifiers = false := by
          intro token first
          cases first
          exact isAnyOf_of_isThe isTable table_not_mem_modifiers
        rw [behind, skipReplacement_of_maySpell replaces notOr,
          skipModifier_of_mayModify modifies notModifier]
        refine ⟨_, ⟨table, rfl, isTable⟩, chain, paren, after, ?_, chained,
          opens, stands⟩
        exact skipCondition_of_maySpell conditional (chained.second opens "NOT")

theorem not_begins_nil (header : Header) : ¬Begins [] header := by
  rintro ⟨phrase, after, whole, isPhrase⟩
  cases isPhrase with
  | intro => cases whole

theorem begins_cons_iff {token : IndexedToken} {rest : List IndexedToken}
    {header : Header} :
    Begins (token :: rest) header
      ↔ token.1.isThe "CREATE" = true ∧ afterCreate? rest = some header := by
  constructor
  · intro begins
    have isCreate : token.1.isThe "CREATE" = true := by
      obtain ⟨phrase, after, whole, isPhrase⟩ := begins
      cases isPhrase with
      | intro isCreate =>
          rw [(List.cons.inj whole).1]
          exact isCreate
    exact ⟨isCreate, (afterCreate?_eq_some_iff isCreate).mpr begins⟩
  · rintro ⟨isCreate, found⟩
    exact (afterCreate?_eq_some_iff isCreate).mp found

theorem first?_of_begins {tokens : List IndexedToken} {header : Header}
    (begins : Begins tokens header) : first? tokens = some header := by
  cases tokens with
  | nil => exact absurd begins (not_begins_nil header)
  | cons token rest =>
      obtain ⟨isCreate, found⟩ := begins_cons_iff.mp begins
      rw [first?, if_pos isCreate, found]
      rfl

theorem first?_of_not_begins {token : IndexedToken}
    {rest : List IndexedToken}
    (nowhere : ∀ header, ¬Begins (token :: rest) header) :
    first? (token :: rest) = first? rest := by
  rw [first?]
  split
  case _ isCreate =>
    cases found : afterCreate? rest with
    | none => rfl
    | some header =>
        exact absurd (begins_cons_iff.mpr ⟨isCreate, found⟩) (nowhere header)
  case _ => rfl

/-- The search finds the first header of the grammar. -/
theorem first?_eq_some_iff {tokens : List IndexedToken} {header : Header} :
    first? tokens = some header
      ↔ ∃ position, Begins (tokens.drop position) header
        ∧ ∀ earlier < position, ∀ other,
          ¬Begins (tokens.drop earlier) other := by
  induction tokens with
  | nil =>
      constructor
      · intro found
        cases found
      · rintro ⟨position, begins, -⟩
        rw [List.drop_nil] at begins
        exact absurd begins (not_begins_nil header)
  | cons token rest induction =>
      by_cases here : ∃ other, Begins (token :: rest) other
      · obtain ⟨other, begins⟩ := here
        rw [first?_of_begins begins]
        constructor
        · intro same
          cases same
          exact ⟨0, begins, nofun⟩
        · rintro ⟨position, found, first⟩
          cases position with
          | zero =>
              have same := first?_of_begins found
              rw [List.drop_zero, first?_of_begins begins] at same
              exact same
          | succ position =>
              exact absurd begins (first 0 (Nat.succ_pos _) other)
      · have nowhere := not_exists.mp here
        rw [first?_of_not_begins nowhere, induction]
        constructor
        · rintro ⟨position, begins, first⟩
          refine ⟨position + 1, begins, ?_⟩
          intro earlier before
          cases earlier with
          | zero => exact nowhere
          | succ earlier => exact first earlier (Nat.lt_of_succ_lt_succ before)
        · rintro ⟨position, begins, first⟩
          cases position with
          | zero => exact absurd begins (nowhere header)
          | succ position =>
              refine ⟨position, begins, ?_⟩
              intro earlier before
              exact first (earlier + 1) (Nat.succ_lt_succ before)

theorem isSome_first?_iff {tokens : List IndexedToken} :
    (first? tokens).isSome = true
      ↔ ∃ position header, Begins (tokens.drop position) header := by
  constructor
  · intro found
    obtain ⟨header, found⟩ := Option.isSome_iff_exists.mp found
    obtain ⟨position, begins, -⟩ := first?_eq_some_iff.mp found
    exact ⟨position, header, begins⟩
  · rintro ⟨position, header, begins⟩
    induction tokens generalizing position with
    | nil =>
        rw [List.drop_nil] at begins
        exact absurd begins (not_begins_nil header)
    | cons token rest induction =>
        by_cases here : ∃ other, Begins (token :: rest) other
        · obtain ⟨other, isFirst⟩ := here
          rw [first?_of_begins isFirst]
          rfl
        · have nowhere := not_exists.mp here
          cases position with
          | zero => exact absurd begins (nowhere header)
          | succ position =>
              rw [first?_of_not_begins nowhere]
              exact induction position begins

end Header

end SchemaSheet
