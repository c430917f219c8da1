import SchemaSheet.Proofs.Table.HeaderSearch

/-!
# What the search for a header looks at

The search behind `CREATE` looks no further than the first opening parenthesis,
and at no place of a token.  `firstAt?` is the search with the token `CREATE`
that it starts from.
-/

namespace SchemaSheet

namespace Token

theorem kind_of_isThe {token : Token} {word : Text}
    (isThe : token.isThe word = true) : token.kind = .word := by
  simp only [Token.isThe, Token.isWord, Bool.and_eq_true, beq_iff_eq] at isThe
  exact isThe.1

theorem isThe_eq_false {token : Token} (word : Text)
    (notWord : token.kind ≠ .word) : token.isThe word = false := by
  simp [Token.isThe, Token.isWord, notWord]

theorem kind_of_isAnyOf {token : Token} {words : List Text}
    (isAnyOf : token.isAnyOf words = true) : token.kind = .word := by
  simp only [Token.isAnyOf, Token.isWord, Bool.and_eq_true,
    beq_iff_eq] at isAnyOf
  exact isAnyOf.1

end Token

namespace Header

/-- A token that no header goes on with. -/
def Inert (token : IndexedToken) : Prop :=
  token.1.kind ≠ .word ∧ token.1.kind ≠ .quotedName ∧ token.1.kind ≠ .dot
    ∧ token.1.kind ≠ .openParen

/-- No header that begins in front goes on behind: a parenthesis opens in
front, or the first token behind is inert. -/
def Apart (front back : List IndexedToken) : Prop :=
  (∃ token ∈ front, token.1.kind = .openParen)
    ∨ ∀ token ∈ back.head?, Inert token

theorem Apart.tail {token : IndexedToken} {front back : List IndexedToken}
    (apart : Apart (token :: front) back)
    (noParen : token.1.kind ≠ .openParen) : Apart front back := by
  rcases apart with ⟨paren, member, opens⟩ | inert
  · rcases List.mem_cons.mp member with same | inside
    · rw [same] at opens
      exact absurd opens noParen
    · exact .inl ⟨paren, inside, opens⟩
  · exact .inr inert

theorem Apart.nil {back : List IndexedToken} (apart : Apart [] back) :
    ∀ token ∈ back.head?, Inert token := by
  rcases apart with ⟨paren, member, -⟩ | inert
  · cases member
  · exact inert

theorem word_ne_openParen {token : Token} (isWord : token.kind = .word) :
    token.kind ≠ .openParen := by
  rw [isWord]
  decide

theorem Apart.not_isThe {back : List IndexedToken} (apart : Apart [] back)
    (word : Text) : ∀ token ∈ back.head?, token.1.isThe word = false := by
  intro token member
  apply Token.isThe_eq_false
  exact (apart.nil token member).1

theorem Apart.skipReplacement {front back : List IndexedToken}
    (apart : Apart front back) :
    Header.skipReplacement (front ++ back)
        = Header.skipReplacement front ++ back
      ∧ Apart (Header.skipReplacement front) back := by
  match front with
  | [] =>
      refine ⟨?_, apart⟩
      cases back with
      | nil => rfl
      | cons token back =>
          exact skipReplacement_cons back (apart.not_isThe "OR" token rfl)
  | [first] =>
      refine ⟨?_, apart⟩
      cases isOr : first.1.isThe "OR" with
      | false => exact skipReplacement_cons back isOr
      | true =>
          have behind := apart.tail
            (word_ne_openParen (Token.kind_of_isThe isOr))
          cases back with
          | nil => rfl
          | cons token back =>
              have other := behind.not_isThe "REPLACE" token rfl
              simp [Header.skipReplacement, other]
  | first :: second :: rest =>
      cases both : first.1.isThe "OR" && second.1.isThe "REPLACE" with
      | false =>
          simp only [List.cons_append, Header.skipReplacement, both,
            Bool.false_eq_true, if_false]
          exact ⟨trivial, apart⟩
      | true =>
          simp only [List.cons_append, Header.skipReplacement, both, if_true]
          have words := Bool.and_eq_true_iff.mp both
          exact ⟨trivial,
            (apart.tail (word_ne_openParen (Token.kind_of_isThe words.1))).tail
              (word_ne_openParen (Token.kind_of_isThe words.2))⟩

theorem Apart.skipModifier {front back : List IndexedToken}
    (apart : Apart front back) :
    Header.skipModifier (front ++ back) = Header.skipModifier front ++ back
      ∧ Apart (Header.skipModifier front) back := by
  cases front with
  | nil =>
      refine ⟨?_, apart⟩
      cases back with
      | nil => rfl
      | cons token back =>
          have other : token.1.isAnyOf modifiers = false := by
            cases found : token.1.isAnyOf modifiers with
            | false => rfl
            | true =>
                exact absurd (Token.kind_of_isAnyOf found)
                  (apart.nil token rfl).1
          simp [Header.skipModifier, other]
  | cons first rest =>
      cases found : first.1.isAnyOf modifiers with
      | false =>
          simp only [List.cons_append, Header.skipModifier, found,
            Bool.false_eq_true, if_false]
          exact ⟨trivial, apart⟩
      | true =>
          simp only [List.cons_append, Header.skipModifier, found, if_true]
          exact ⟨trivial, apart.tail
            (word_ne_openParen (Token.kind_of_isAnyOf found))⟩

theorem Apart.pass? {front back : List IndexedToken}
    (apart : Apart front back) (word : Text) :
    Header.pass? word (front ++ back)
        = (Header.pass? word front).map (· ++ back)
      ∧ ∀ rest, Header.pass? word front = some rest → Apart rest back := by
  cases front with
  | nil =>
      refine ⟨?_, nofun⟩
      cases back with
      | nil => rfl
      | cons token back =>
          simp [Header.pass?, apart.not_isThe word token rfl]
  | cons first rest =>
      cases found : first.1.isThe word with
      | false => simp [Header.pass?, found]
      | true =>
          simp only [List.cons_append, Header.pass?, found, if_true,
            Option.map_some, Option.some.injEq, forall_eq']
          exact ⟨trivial, apart.tail
            (word_ne_openParen (Token.kind_of_isThe found))⟩

theorem Apart.skipCondition {front back : List IndexedToken}
    (apart : Apart front back) :
    Header.skipCondition (front ++ back)
      = Header.skipCondition front ++ back
      ∧ Apart (Header.skipCondition front) back := by
  match front with
  | [] =>
      refine ⟨?_, apart⟩
      cases back with
      | nil => rfl
      | cons token back =>
          exact skipCondition_cons back (apart.not_isThe "IF" token rfl)
  | [first] =>
      refine ⟨?_, apart⟩
      cases isIf : first.1.isThe "IF" with
      | false => exact skipCondition_cons back isIf
      | true =>
          have behind := apart.tail
            (word_ne_openParen (Token.kind_of_isThe isIf))
          match back with
          | [] => rfl
          | [token] => rfl
          | token :: other :: back =>
              have noNot := behind.not_isThe "NOT" token rfl
              simp [Header.skipCondition, noNot]
  | [first, second] =>
      refine ⟨?_, apart⟩
      cases both : first.1.isThe "IF" && second.1.isThe "NOT" with
      | false =>
          cases back with
          | nil => rfl
          | cons token back => simp [Header.skipCondition, both]
      | true =>
          have words := Bool.and_eq_true_iff.mp both
          have behind :=
            (apart.tail (word_ne_openParen (Token.kind_of_isThe words.1))).tail
              (word_ne_openParen (Token.kind_of_isThe words.2))
          cases back with
          | nil => rfl
          | cons token back =>
              have noExists := behind.not_isThe "EXISTS" token rfl
              simp [Header.skipCondition, noExists]
  | first :: second :: third :: rest =>
      cases all : first.1.isThe "IF" && second.1.isThe "NOT"
          && third.1.isThe "EXISTS" with
      | false =>
          simp only [List.cons_append, Header.skipCondition, all,
            Bool.false_eq_true, if_false]
          exact ⟨trivial, apart⟩
      | true =>
          simp only [List.cons_append, Header.skipCondition, all, if_true]
          obtain ⟨words, last⟩ := Bool.and_eq_true_iff.mp all
          obtain ⟨isIf, isNot⟩ := Bool.and_eq_true_iff.mp words
          exact ⟨trivial,
            ((apart.tail (word_ne_openParen (Token.kind_of_isThe isIf))).tail
              (word_ne_openParen (Token.kind_of_isThe isNot))).tail
                (word_ne_openParen (Token.kind_of_isThe last))⟩

theorem plainName?_eq_none {token : Token} (notWord : token.kind ≠ .word)
    (notQuoted : token.kind ≠ .quotedName) : token.plainName? = none := by
  simp [Token.plainName?, Token.isName, notWord, notQuoted]

theorem ne_openParen_of_plainName? {token : Token} {name : PlainName}
    (named : token.plainName? = some name) : token.kind ≠ .openParen := by
  intro opens
  rw [plainName?_eq_none (by simp [opens]) (by simp [opens])] at named
  cases named

theorem Apart.names? {front back : List IndexedToken}
    (apart : Apart front back) :
    Header.names? (front ++ back) = Header.names? front := by
  induction front using Header.names?.induct with
  | case1 first next rest nameless => simp [Header.names?, nameless]
  | case2 first next rest name named isDot induction =>
      have noParen : next.1.kind ≠ .openParen := by simp [isDot]
      have later := induction
        ((apart.tail (ne_openParen_of_plainName? named)).tail noParen)
      simp [Header.names?, named, isDot, later]
  | case3 first next rest name named notDot isOpening =>
      simp [Header.names?, named, isOpening]
  | case4 first next rest name named notDot notOpening =>
      simp [Header.names?, named, notDot, notOpening]
  | case5 tokens short =>
      cases tokens with
      | nil =>
          cases back with
          | nil => rfl
          | cons token back =>
              have inert := apart.nil token rfl
              have nameless := plainName?_eq_none inert.1 inert.2.1
              cases back with
              | nil => rfl
              | cons next back => simp [Header.names?, nameless]
      | cons first rest =>
          cases rest with
          | cons second rest => exact absurd rfl (short first second rest)
          | nil =>
              cases back with
              | nil => rfl
              | cons token back =>
                  cases named : first.1.plainName? with
                  | none => simp [Header.names?, named]
                  | some name =>
                      have noParen := ne_openParen_of_plainName? named
                      have inert := (apart.tail noParen).nil token rfl
                      simp [Header.names?, named, inert.2.2.1, inert.2.2.2]

/-- The search behind `CREATE` finds the same in front of what is apart. -/
theorem Apart.afterCreate? {front back : List IndexedToken}
    (apart : Apart front back) :
    Header.afterCreate? (front ++ back) = Header.afterCreate? front := by
  obtain ⟨replacement, apartReplacement⟩ := apart.skipReplacement
  obtain ⟨modifier, apartModifier⟩ := apartReplacement.skipModifier
  obtain ⟨passed, apartPassed⟩ := apartModifier.pass? "TABLE"
  rw [Header.afterCreate?, Header.afterCreate?, replacement, modifier, passed]
  cases found : Header.pass? "TABLE"
      (Header.skipModifier (Header.skipReplacement front)) with
  | none => rfl
  | some rest =>
      obtain ⟨condition, apartCondition⟩ :=
        (apartPassed rest found).skipCondition
      simp only [Option.map_some, Option.bind_eq_bind, Option.bind_some]
      rw [condition, apartCondition.names?]

/-- The first header among tokens without line breaks, and the token `CREATE`
that it begins with. -/
def firstAt? : List IndexedToken → Option (IndexedToken × Header)
  | [] => none
  | token :: rest =>
      if token.1.isThe "CREATE" then
        match afterCreate? rest with
        | some header => some (token, header)
        | none => firstAt? rest
      else firstAt? rest

theorem firstAt?_cons (token : IndexedToken) (rest : List IndexedToken) :
    firstAt? (token :: rest)
      = if token.1.isThe "CREATE" then
          match afterCreate? rest with
          | some header => some (token, header)
          | none => firstAt? rest
        else firstAt? rest := rfl

theorem map_snd_firstAt? (tokens : List IndexedToken) :
    (firstAt? tokens).map Prod.snd = first? tokens := by
  induction tokens with
  | nil => rfl
  | cons token rest induction =>
      rw [firstAt?_cons, first?]
      split
      · cases afterCreate? rest with
        | some header => rfl
        | none => exact induction
      · exact induction

theorem mem_of_firstAt? {tokens : List IndexedToken} {create : IndexedToken}
    {header : Header} (found : firstAt? tokens = some (create, header)) :
    create ∈ tokens ∧ OpensIn tokens header := by
  induction tokens with
  | nil => cases found
  | cons token rest induction =>
      have suffix : rest <:+ token :: rest := List.suffix_cons _ _
      rw [firstAt?_cons] at found
      split at found
      · cases after : afterCreate? rest with
        | none =>
            simp only [after] at found
            obtain ⟨member, opens⟩ := induction found
            exact ⟨suffix.mem member, opens.of_suffix suffix⟩
        | some inner =>
            simp only [after] at found
            cases found
            exact ⟨List.mem_cons_self,
              (opensIn_of_afterCreate? after).of_suffix suffix⟩
      · obtain ⟨member, opens⟩ := induction found
        exact ⟨suffix.mem member, opens.of_suffix suffix⟩

theorem firstAt?_of_inert {tokens : List IndexedToken}
    (inert : ∀ token ∈ tokens, Inert token) : firstAt? tokens = none := by
  induction tokens with
  | nil => rfl
  | cons token rest induction =>
      have other := Token.isThe_eq_false "CREATE"
        (inert token List.mem_cons_self).1
      rw [firstAt?_cons, other]
      apply induction
      intro later member
      exact inert later (List.mem_cons_of_mem _ member)

theorem firstAt?_append_inert (front : List IndexedToken)
    {back : List IndexedToken} (inert : ∀ token ∈ back, Inert token) :
    firstAt? (front ++ back) = firstAt? front := by
  induction front with
  | nil => exact firstAt?_of_inert inert
  | cons token rest induction =>
      have apart : Apart rest back := by
        right
        intro other member
        exact inert other (List.mem_of_mem_head? member)
      rw [List.cons_append, firstAt?_cons, firstAt?_cons, apart.afterCreate?,
        induction]

theorem firstAt?_inert_append {front : List IndexedToken}
    (inert : ∀ token ∈ front, Inert token) (back : List IndexedToken) :
    firstAt? (front ++ back) = firstAt? back := by
  induction front with
  | nil => rfl
  | cons token rest induction =>
      have other := Token.isThe_eq_false "CREATE"
        (inert token List.mem_cons_self).1
      rw [List.cons_append, firstAt?_cons, other]
      apply induction
      intro later member
      exact inert later (List.mem_cons_of_mem _ member)

theorem firstAt?_append_of_some {front : List IndexedToken}
    (back : List IndexedToken) {create : IndexedToken} {header : Header}
    (found : firstAt? front = some (create, header)) :
    firstAt? (front ++ back) = some (create, header) := by
  induction front with
  | nil => cases found
  | cons token rest induction =>
      rw [firstAt?_cons] at found
      rw [List.cons_append, firstAt?_cons]
      cases isCreate : token.1.isThe "CREATE" with
      | false =>
          simp only [isCreate, Bool.false_eq_true, if_false] at found ⊢
          exact induction found
      | true =>
          simp only [isCreate, if_true] at found ⊢
          cases after : afterCreate? rest with
          | some inner =>
              obtain ⟨paren, member, opens⟩ := opensIn_of_afterCreate? after
              have apart : Apart rest back := .inl ⟨_, member, opens⟩
              rw [after] at found
              rw [apart.afterCreate?, after]
              exact found
          | none =>
              rw [after] at found
              obtain ⟨paren, member, opens⟩ := (mem_of_firstAt? found).2
              have apart : Apart rest back := .inl ⟨_, member, opens⟩
              rw [apart.afterCreate?, after]
              exact induction found

/-- Where no header begins in front, the search finds what it finds behind. -/
theorem firstAt?_append {front back : List IndexedToken}
    (later : ∀ create header,
      firstAt? (front ++ back) = some (create, header) → create ∉ front) :
    firstAt? (front ++ back) = firstAt? back := by
  induction front with
  | nil => rfl
  | cons token rest induction =>
      rw [List.cons_append, firstAt?_cons] at later ⊢
      have onward : (∀ create header,
          firstAt? (rest ++ back) = some (create, header) →
            create ∉ token :: rest) →
          firstAt? (rest ++ back) = firstAt? back := by
        intro absent
        apply induction
        intro create header found member
        exact absent create header found (List.mem_cons_of_mem _ member)
      cases isCreate : token.1.isThe "CREATE" with
      | false =>
          simp only [isCreate, Bool.false_eq_true, if_false] at later ⊢
          exact onward later
      | true =>
          simp only [isCreate, if_true] at later ⊢
          cases after : afterCreate? (rest ++ back) with
          | some header =>
              simp only [after] at later
              exact absurd List.mem_cons_self (later token header rfl)
          | none =>
              simp only [after] at later
              exact onward later

/-- What stands behind the parenthesis of a header does not matter. -/
theorem firstAt?_of_opening {front back other : List IndexedToken}
    {paren create : IndexedToken} {header : Header}
    (opens : paren.1.kind = .openParen)
    (found : firstAt? (front ++ paren :: back) = some (create, header))
    (ends : ∀ token ∈ back, token.2 ≠ header.opening) :
    firstAt? (front ++ paren :: other) = some (create, header) := by
  induction front with
  | nil =>
      have noCreate : paren.1.isThe "CREATE" = false :=
        Token.isThe_eq_false _ (by simp [opens])
      simp only [List.nil_append, firstAt?_cons, noCreate, Bool.false_eq_true,
        if_false] at found
      obtain ⟨inner, member, -⟩ := (mem_of_firstAt? found).2
      exact absurd rfl (ends _ member)
  | cons token rest induction =>
      have same : ∀ behind, afterCreate? (rest ++ paren :: behind)
          = afterCreate? (rest ++ [paren]) := by
        intro behind
        have apart : Apart (rest ++ [paren]) behind :=
          .inl ⟨paren, by simp, opens⟩
        rw [← apart.afterCreate?, List.append_assoc]
        rfl
      rw [List.cons_append, firstAt?_cons, same] at found ⊢
      cases isCreate : token.1.isThe "CREATE" with
      | false =>
          simp only [isCreate, Bool.false_eq_true, if_false] at found ⊢
          exact induction found
      | true =>
          simp only [isCreate, if_true] at found ⊢
          cases after : afterCreate? (rest ++ [paren]) with
          | some inner =>
              simp only [after] at found ⊢
              exact found
          | none =>
              simp only [after] at found ⊢
              exact induction found

section Spelling

variable {change : IndexedToken → IndexedToken}
  (keeps : ∀ token, (change token).1.kind = token.1.kind
    ∧ (change token).1.text = token.1.text)

include keeps

theorem isThe_change (token : IndexedToken) (word : Text) :
    (change token).1.isThe word = token.1.isThe word := by
  simp [Token.isThe, Token.isWord, Token.upper, keeps]

theorem isAnyOf_change (token : IndexedToken) (words : List Text) :
    (change token).1.isAnyOf words = token.1.isAnyOf words := by
  simp [Token.isAnyOf, Token.isWord, Token.upper, keeps]

theorem plainName?_change (token : IndexedToken) :
    (change token).1.plainName? = token.1.plainName? := by
  obtain ⟨kind, text⟩ := keeps token
  cases changed : (change token).1
  cases whole : token.1
  simp only [changed, whole] at kind text
  rw [kind, text]
  rfl

theorem skipReplacement_map (tokens : List IndexedToken) :
    skipReplacement (tokens.map change)
      = (skipReplacement tokens).map change := by
  match tokens with
  | [] => rfl
  | [first] => rfl
  | first :: second :: rest =>
      simp only [List.map_cons, skipReplacement, isThe_change keeps]
      split <;> rfl

theorem skipModifier_map (tokens : List IndexedToken) :
    skipModifier (tokens.map change) = (skipModifier tokens).map change := by
  cases tokens with
  | nil => rfl
  | cons first rest =>
      simp only [List.map_cons, skipModifier, isAnyOf_change keeps]
      split <;> rfl

theorem pass?_map (word : Text) (tokens : List IndexedToken) :
    pass? word (tokens.map change)
      = (pass? word tokens).map (List.map change) := by
  cases tokens with
  | nil => rfl
  | cons first rest =>
      simp only [List.map_cons, pass?, isThe_change keeps]
      split <;> rfl

theorem skipCondition_map (tokens : List IndexedToken) :
    skipCondition (tokens.map change)
      = (skipCondition tokens).map change := by
  match tokens with
  | [] => rfl
  | [first] => rfl
  | [first, second] => rfl
  | first :: second :: third :: rest =>
      simp only [List.map_cons, skipCondition, isThe_change keeps]
      split <;> rfl

end Spelling

/-- The header without the index of its parenthesis. -/
def withoutOpening (header : Header) : Header := { header with opening := 0 }

section Names

variable {change : IndexedToken → IndexedToken}
  (keeps : ∀ token, (change token).1.kind = token.1.kind
    ∧ (change token).1.text = token.1.text)

include keeps

theorem names?_map (tokens : List IndexedToken) :
    (names? (tokens.map change)).map withoutOpening
      = (names? tokens).map withoutOpening := by
  induction tokens using names?.induct with
  | case1 first next rest nameless =>
      simp [names?, plainName?_change keeps, nameless]
  | case2 first next rest name named isDot induction =>
      simp only [List.map_cons, names?, plainName?_change keeps, named, keeps,
        isDot, if_true]
      have swap : ∀ found : Option Header,
          (found.map fun header =>
            { header with qualifiers := name :: header.qualifiers }).map
              withoutOpening
          = (found.map withoutOpening).map fun header =>
            { header with qualifiers := name :: header.qualifiers } := by
        intro found
        cases found <;> rfl
      rw [swap, swap, induction]
  | case3 first next rest name named notDot isOpening =>
      simp [names?, plainName?_change keeps, named, keeps, isOpening,
        withoutOpening]
  | case4 first next rest name named notDot notOpening =>
      simp [names?, plainName?_change keeps, named, keeps, notDot, notOpening]
  | case5 tokens short =>
      cases tokens with
      | nil => rfl
      | cons first rest =>
          cases rest with
          | nil => rfl
          | cons second rest => exact absurd rfl (short first second rest)

theorem afterCreate?_map (tokens : List IndexedToken) :
    (afterCreate? (tokens.map change)).map withoutOpening
      = (afterCreate? tokens).map withoutOpening := by
  rw [afterCreate?, afterCreate?, skipReplacement_map keeps,
    skipModifier_map keeps, pass?_map keeps]
  cases pass? "TABLE" (skipModifier (skipReplacement tokens)) with
  | none => rfl
  | some rest =>
      simp only [Option.map_some, Option.bind_eq_bind, Option.bind_some]
      rw [skipCondition_map keeps, names?_map keeps]

theorem firstAt?_map (tokens : List IndexedToken) :
    (firstAt? (tokens.map change)).map (withoutOpening ∘ Prod.snd)
      = (firstAt? tokens).map (withoutOpening ∘ Prod.snd) := by
  induction tokens with
  | nil => rfl
  | cons token rest induction =>
      rw [List.map_cons, firstAt?_cons, firstAt?_cons, isThe_change keeps]
      split
      · have same := afterCreate?_map keeps rest
        cases changed : afterCreate? (rest.map change) with
        | none =>
            rw [changed] at same
            rw [Option.map_eq_none_iff.mp same.symm]
            exact induction
        | some header =>
            rw [changed] at same
            obtain ⟨other, found, equal⟩ :=
              Option.map_eq_some_iff.mp same.symm
            rw [found]
            simpa using equal.symm
      · exact induction

end Names

end Header

end SchemaSheet
