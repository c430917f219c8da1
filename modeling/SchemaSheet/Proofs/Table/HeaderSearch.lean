import SchemaSheet.Table.Header

/-!
# The search for a header

A header that is found ends at an opening parenthesis of the token list, the
one that it names.
-/

namespace SchemaSheet

theorem Token.plainName?_eq_some_iff {token : Token} {name : PlainName} :
    token.plainName? = some name
      ↔ token.isName = true ∧ token.content = name.text := by
  unfold plainName?
  split
  case _ isName =>
    split
    case _ plain =>
      rw [Option.some.injEq]
      constructor
      · rintro rfl
        exact ⟨isName, rfl⟩
      · rintro ⟨-, content⟩
        cases name
        cases content
        rfl
    case _ notPlain =>
      constructor
      · intro impossible
        cases impossible
      · rintro ⟨-, content⟩
        rw [content] at notPlain
        exact absurd name.plain notPlain
  case _ notName =>
    constructor
    · intro impossible
      cases impossible
    · rintro ⟨isName, -⟩
      exact absurd isName notName

namespace Header

theorem map_fst_significant (tokens : List Token) :
    (significant tokens).map Prod.fst = Token.withoutBreaks tokens := by
  have indexed := List.filter_map (f := Prod.fst (α := Token) (β := Nat))
    (p := fun token => token.kind != .lineBreak) (l := tokens.zipIdx)
  rw [List.zipIdx_map_fst] at indexed
  exact indexed.symm

theorem getElem?_of_mem_significant {tokens : List Token}
    {token : IndexedToken} (member : token ∈ significant tokens) :
    tokens[token.2]? = some token.1 :=
  List.mem_zipIdx_iff_getElem?.mp (List.mem_filter.mp member).1

theorem skipReplacement_suffix (tokens : List IndexedToken) :
    skipReplacement tokens <:+ tokens := by
  unfold skipReplacement
  split
  · split
    · exact ⟨[_, _], rfl⟩
    · exact List.suffix_refl _
  · exact List.suffix_refl _

theorem skipModifier_suffix (tokens : List IndexedToken) :
    skipModifier tokens <:+ tokens := by
  unfold skipModifier
  split
  · split
    · exact List.suffix_cons _ _
    · exact List.suffix_refl _
  · exact List.suffix_refl _

theorem pass?_suffix {word : Text} {tokens rest : List IndexedToken}
    (passed : pass? word tokens = some rest) : rest <:+ tokens := by
  unfold pass? at passed
  split at passed
  · split at passed
    · cases passed
      exact List.suffix_cons _ _
    · cases passed
  · cases passed

theorem skipCondition_suffix (tokens : List IndexedToken) :
    skipCondition tokens <:+ tokens := by
  unfold skipCondition
  split
  · split
    · exact ⟨[_, _, _], rfl⟩
    · exact List.suffix_refl _
  · exact List.suffix_refl _

theorem skipReplacement_cons {first : IndexedToken} (rest : List IndexedToken)
    (other : first.1.isThe "OR" = false) :
    skipReplacement (first :: rest) = first :: rest := by
  cases rest with
  | nil => rfl
  | cons second rest => simp [skipReplacement, other]

theorem skipCondition_cons {first : IndexedToken} (rest : List IndexedToken)
    (other : first.1.isThe "IF" = false) :
    skipCondition (first :: rest) = first :: rest := by
  match rest with
  | [] => rfl
  | [second] => rfl
  | second :: third :: rest => simp [skipCondition, other]

/-- The header's opening is the index of an opening parenthesis in the list. -/
def OpensIn (tokens : List IndexedToken) (header : Header) : Prop :=
  ∃ paren, (paren, header.opening) ∈ tokens ∧ paren.kind = .openParen

theorem OpensIn.of_suffix {short long : List IndexedToken} {header : Header}
    (suffix : short <:+ long) (opens : OpensIn short header) :
    OpensIn long header := by
  obtain ⟨paren, member, kind⟩ := opens
  exact ⟨paren, suffix.mem member, kind⟩

theorem opensIn_of_names? {tokens : List IndexedToken} {header : Header}
    (found : names? tokens = some header) : OpensIn tokens header := by
  induction tokens using names?.induct generalizing header with
  | case1 first next rest nameless =>
      simp [names?, nameless] at found
  | case2 first next rest name named isDot induction =>
      simp only [names?, named, isDot, if_true, Option.map_eq_some_iff] at found
      obtain ⟨inner, innerFound, rfl⟩ := found
      exact (induction innerFound).of_suffix ⟨[first, next], rfl⟩
  | case3 first next rest name named notDot isOpening =>
      simp only [names?, named, isOpening] at found
      cases found
      exact ⟨next.1, by simp, isOpening⟩
  | case4 first next rest name named notDot notOpening =>
      simp [names?, named, notDot, notOpening] at found
  | case5 tokens short =>
      rw [names?] at found
      · cases found
      · exact short

theorem opensIn_of_afterCreate? {tokens : List IndexedToken} {header : Header}
    (found : afterCreate? tokens = some header) : OpensIn tokens header := by
  simp only [afterCreate?, Option.bind_eq_bind,
    Option.bind_eq_some_iff] at found
  obtain ⟨rest, passed, named⟩ := found
  have suffix := (skipCondition_suffix rest).trans
    ((pass?_suffix passed).trans
      ((skipModifier_suffix _).trans (skipReplacement_suffix tokens)))
  exact (opensIn_of_names? named).of_suffix suffix

theorem opensIn_of_first? {tokens : List IndexedToken} {header : Header}
    (found : first? tokens = some header) : OpensIn tokens header := by
  induction tokens with
  | nil => cases found
  | cons token rest induction =>
      have suffix : rest <:+ token :: rest := List.suffix_cons _ _
      rw [first?] at found
      split at found
      · cases after : afterCreate? rest with
        | none =>
            simp only [after, Option.orElse_none] at found
            exact (induction found).of_suffix suffix
        | some inner =>
            simp only [after, Option.orElse_some] at found
            cases found
            exact (opensIn_of_afterCreate? after).of_suffix suffix
      · exact (induction found).of_suffix suffix

theorem opening_of_find? {tokens : List Token} {header : Header}
    (found : find? tokens = some header) :
    ∃ paren, tokens[header.opening]? = some paren
      ∧ paren.kind = .openParen := by
  obtain ⟨paren, member, kind⟩ := opensIn_of_first? found
  exact ⟨paren, getElem?_of_mem_significant member, kind⟩

end Header

end SchemaSheet
