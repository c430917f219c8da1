import SchemaSheet.Proofs.Table.Outcome

/-!
# Declarations and their neighbours

Where as many parentheses close as open, commas and line breaks behind a list of
tokens end what it declares: what follows them is divided and read as if it
stood alone, and it changes nothing in front of them.
-/

namespace SchemaSheet

namespace Block

/-- Commas and line breaks, at least one of them. -/
structure Separators (tokens : List Token) : Prop where
  nonempty : tokens ≠ []
  only : ∀ token ∈ tokens, token.kind = .comma ∨ token.kind = .lineBreak

/-- The columns that a list of tokens of a statement declares. -/
def columnsOf (openings : List Opening) (statement : Text)
    (tokens : List Token) : List Column :=
  ((declarations tokens).map (Verdict.on openings statement)).filterMap
    Verdict.column?

/-- The declarations are the pieces that hold a token. -/
theorem declarations_eq_filter (block : List Token) :
    declarations block
      = (allPieces 0 block).filter fun piece => !piece.isEmpty := rfl

theorem declarations_append_separator {first : List Token} {token : Token}
    (level : balance first = 0)
    (ends : token.kind = .comma ∨ token.kind = .lineBreak)
    (second : List Token) :
    declarations (first ++ token :: second)
      = declarations first ++ declarations second := by
  have parts : separates (0 + balance first) token = true := by
    rw [level]
    exact separates_zero ends
  rw [declarations_eq_filter, allPieces_append_separator first second parts,
    List.filter_append, level]
  rfl

theorem declarations_separators_append {separators : List Token}
    (only : ∀ token ∈ separators,
      token.kind = .comma ∨ token.kind = .lineBreak)
    (second : List Token) :
    declarations (separators ++ second) = declarations second := by
  induction separators with
  | nil => rfl
  | cons token rest induction =>
      obtain ⟨ends, others⟩ := List.forall_mem_cons.mp only
      exact (declarations_append_separator balance_nil ends _).trans
        (induction others)

theorem declarations_append {first separators : List Token}
    (level : balance first = 0) (parts : Separators separators)
    (second : List Token) :
    declarations (first ++ separators ++ second)
      = declarations first ++ declarations second := by
  obtain ⟨token, rest, rfl⟩ := List.exists_cons_of_ne_nil parts.nonempty
  obtain ⟨ends, others⟩ := List.forall_mem_cons.mp parts.only
  rw [List.append_assoc, List.cons_append,
    declarations_append_separator level ends,
    declarations_separators_append others]

theorem columnsOf_append {first separators : List Token}
    (level : balance first = 0) (parts : Separators separators)
    (openings : List Opening) (statement : Text) (second : List Token) :
    columnsOf openings statement (first ++ separators ++ second)
      = columnsOf openings statement first
        ++ columnsOf openings statement second := by
  simp only [columnsOf, declarations_append level parts, List.map_append,
    List.filterMap_append]

end Block

namespace Declaration

theorem slice_append_of_le {front : Text} {start stop : Nat}
    (inside : stop ≤ front.length) (behind : Text) :
    slice (front ++ behind) start stop = slice front start stop := by
  unfold slice
  rcases Nat.le_total start front.length with before | after
  · rw [List.drop_append_of_le_length before, List.take_append_of_le_length]
    rw [List.length_drop]
    omega
  · have empty : stop - start = 0 := by omega
    rw [empty, List.take_zero, List.take_zero]

/-- What a declaration declares does not depend on the statement behind it. -/
theorem column?_append {front : Text} {declaration : List Token}
    (inside : ∀ token ∈ declaration, token.stop ≤ front.length)
    (behind : Text) :
    column? (front ++ behind) declaration = column? front declaration := by
  match declaration with
  | [] => rfl
  | [_] => rfl
  | name :: type :: rest =>
      have ends : (typeEnd type rest).1.stop ≤ front.length := by
        apply inside
        rcases typeEnd_mem type rest with same | later
        · rw [same]
          simp
        · simp [later]
      simp only [column?, slice_append_of_le ends]

end Declaration

namespace Block

theorem columnsOf_of_inside {openings : List Opening} {front : Text}
    {tokens : List Token}
    (inside : ∀ token ∈ tokens, token.stop ≤ front.length) (behind : Text) :
    columnsOf openings (front ++ behind) tokens
      = columnsOf openings front tokens := by
  unfold columnsOf
  congr 1
  apply List.map_congr_left
  intro declaration member
  have within : ∀ token ∈ declaration, token.stop ≤ front.length := by
    intro token listed
    exact inside token ((sublist_of_mem_declarations member).mem listed)
  simp only [Verdict.on, Declaration.column?_append within]

/-- Tokens that close as many parentheses as they open declare the same whatever
follows the commas and line breaks behind them, and it does not matter which of
these there are. -/
theorem declarations_independent {first separators : List Token}
    (level : (first.countP fun token => token.kind == .openParen)
      = first.countP fun token => token.kind == .closeParen)
    (parts : Separators separators) (second : List Token) :
    declarations (first ++ separators ++ second)
      = declarations first ++ declarations second
    ∧ (∀ openings statement,
      columnsOf openings statement (first ++ separators ++ second)
        = columnsOf openings statement first
          ++ columnsOf openings statement second)
    ∧ (∀ others, Separators others →
      declarations (first ++ others ++ second)
        = declarations (first ++ separators ++ second))
    ∧ declarations (first ++ separators) = declarations first
    ∧ ∀ openings front behind edit edited,
      (∀ token ∈ first, token.stop ≤ front.length) →
        columnsOf openings (front ++ behind) first
          <+: columnsOf openings (front ++ edit)
            (first ++ separators ++ edited) := by
  have settled : balance first = 0 := by
    rw [balance, level, Int.sub_self]
  refine ⟨declarations_append settled parts second, ?_, ?_, ?_, ?_⟩
  · intro openings statement
    exact columnsOf_append settled parts openings statement second
  · intro others otherParts
    rw [declarations_append settled otherParts,
      declarations_append settled parts]
  · have alone := declarations_append settled parts []
    have empty : declarations [] = [] := rfl
    rwa [List.append_nil, empty, List.append_nil] at alone
  · intro openings front behind edit edited inside
    rw [columnsOf_append settled parts, columnsOf_of_inside inside,
      columnsOf_of_inside inside]
    exact List.prefix_append _ _

/-- Tokens that close a parenthesis before they open one. -/
def unevenTokens : List Token := (Token.stream "a)b,(\nc").dropLast

/-- Two commas with a line break between them. -/
def doubledCommas : List Token := (Token.stream ",\n,").dropLast

theorem declarations_independent_uneven :
    ((unevenTokens.countP fun token => token.kind == .openParen)
        = unevenTokens.countP fun token => token.kind == .closeParen)
      ∧ Separators doubledCommas
      ∧ ∀ second,
        declarations (unevenTokens ++ doubledCommas ++ second)
          = declarations unevenTokens ++ declarations second := by
  have level : (unevenTokens.countP fun token => token.kind == .openParen)
      = unevenTokens.countP fun token => token.kind == .closeParen := by
    decide +kernel
  have parts : Separators doubledCommas :=
    ⟨by decide +kernel, by decide +kernel⟩
  exact ⟨level, parts,
    fun second => (declarations_independent level parts second).1⟩

end Block

end SchemaSheet
