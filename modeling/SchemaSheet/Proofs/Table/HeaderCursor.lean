import SchemaSheet.Proofs.Table.HeaderGrammar
import SchemaSheet.Proofs.Token.Placement

/-!
# Headers by positions

The search for a header as a cursor that moves over the indices of the tokens
that count, and looks at the last token once it is behind them all.
`search_stream` says of the tokens of any text that no index of the cursor is
out of range, that its turns are enough, and that what it finds is the first
header of the grammar.
-/

namespace SchemaSheet

namespace Header

section Cursor

variable (tokens : List Token)

/-- The indices of the tokens that are no line breaks. -/
def indices : List Nat := (significant tokens).map Prod.snd

/-- The token at a position among those that count, and the last token behind
them all.  There is none if an index is out of range. -/
def tokenAt? (position : Nat) : Option Token :=
  match (indices tokens)[position]? with
  | some index => tokens[index]?
  | none => tokens.getLast?

def passReplacement? (position : Nat) : Option Nat := do
  let first ← tokenAt? tokens position
  let second ← tokenAt? tokens (position + 1)
  return if first.isThe "OR" && second.isThe "REPLACE" then position + 2
    else position

def passModifier? (position : Nat) : Option Nat := do
  let token ← tokenAt? tokens position
  return if token.isAnyOf modifiers then position + 1 else position

def passCondition? (position : Nat) : Option Nat := do
  let first ← tokenAt? tokens position
  let second ← tokenAt? tokens (position + 1)
  let third ← tokenAt? tokens (position + 2)
  return if first.isThe "IF" && second.isThe "NOT" && third.isThe "EXISTS"
    then position + 3 else position

/-- The names from a position on, behind the given ones, in so many turns at
most.  There is no result if the turns are used up. -/
def namesFrom? : Nat → List PlainName → Nat → Option (Option Header)
  | 0, _, _ => none
  | turns + 1, names, position => do
      let token ← tokenAt? tokens position
      let next ← tokenAt? tokens (position + 1)
      match token.plainName? with
      | none => return none
      | some name =>
          if next.kind = .dot then
            namesFrom? turns (names ++ [name]) (position + 2)
          else if next.kind = .openParen then
            let opening ← (indices tokens)[position + 1]?
            return some ⟨names, name, opening⟩
          else return none

/-- The header whose tokens stand from a position on, behind `CREATE`. -/
def headerFrom? (turns position : Nat) : Option (Option Header) := do
  let position ← passReplacement? tokens position
  let position ← passModifier? tokens position
  let table ← tokenAt? tokens position
  if table.isThe "TABLE" then
    let position ← passCondition? tokens (position + 1)
    namesFrom? tokens turns [] position
  else return none

/-- The first header, in so many turns for its names.  There is no result if an
index is out of range or the turns are used up. -/
def scan? (turns : Nat) : Option (Option Header) :=
  (List.range (indices tokens).length).findSomeM? fun position => do
    let token ← tokenAt? tokens position
    if token.isThe "CREATE" then headerFrom? tokens turns (position + 1)
    else return none

end Cursor

/-- The first token, or another one if there is none. -/
def peek (last : Token) (rest : List IndexedToken) : Token :=
  (rest.head?.map Prod.fst).getD last

theorem peek_nil_isThe {last : Token} (isEnd : last.kind = .endOfText)
    (word : Text) : (peek last []).isThe word = false := by
  apply Token.isThe_eq_false
  simp [peek, isEnd]

theorem names?_of_short {rest : List IndexedToken} (short : rest.length ≤ 1) :
    names? rest = none := by
  match rest with
  | [] => rfl
  | [_] => rfl

section Search

variable {tokens : List Token} {last : Token}
  (ends : tokens.getLast? = some last) (isEnd : last.kind = .endOfText)

include ends

theorem tokenAt?_eq (position : Nat) :
    tokenAt? tokens position
      = some (peek last ((significant tokens).drop position)) := by
  rw [tokenAt?, indices, List.getElem?_map, peek, List.head?_drop]
  cases found : (significant tokens)[position]? with
  | none => exact ends
  | some token =>
      exact getElem?_of_mem_significant (List.mem_of_getElem? found)

theorem tokenAt?_add (position count : Nat) :
    tokenAt? tokens (position + count)
      = some (peek last
        (((significant tokens).drop position).drop count)) := by
  rw [tokenAt?_eq ends, List.drop_drop]

theorem passModifier?_eq (position : Nat) :
    ∃ moved, passModifier? tokens position = some moved
      ∧ (significant tokens).drop moved
        = skipModifier ((significant tokens).drop position) := by
  refine ⟨_, by rw [passModifier?, tokenAt?_eq ends]; rfl, ?_⟩
  rw [apply_ite fun moved => (significant tokens).drop moved,
    ← List.drop_drop]
  generalize (significant tokens).drop position = rest
  match rest with
  | [] => simp [skipModifier]
  | first :: rest => rfl

theorem namesFrom?_of_cons {position : Nat} {first second : IndexedToken}
    {rest : List IndexedToken} (turns : Nat) (names : List PlainName)
    (left : (significant tokens).drop position = first :: second :: rest) :
    namesFrom? tokens (turns + 1) names position
      = match first.1.plainName? with
        | none => some none
        | some name =>
            if second.1.kind = .dot then
              namesFrom? tokens turns (names ++ [name]) (position + 2)
            else if second.1.kind = .openParen then
              some (some ⟨names, name, second.2⟩)
            else some none := by
  have behind : (significant tokens).drop (position + 1) = second :: rest := by
    rw [← List.drop_drop, left]
    rfl
  have index : (indices tokens)[position + 1]? = some second.2 := by
    rw [indices, List.getElem?_map, ← List.head?_drop, behind]
    rfl
  rw [namesFrom?, tokenAt?_eq ends, tokenAt?_eq ends, left, behind, index]
  rfl

include isEnd

theorem passReplacement?_eq (position : Nat) :
    ∃ moved, passReplacement? tokens position = some moved
      ∧ (significant tokens).drop moved
        = skipReplacement ((significant tokens).drop position) := by
  have noWord := peek_nil_isThe isEnd
  refine ⟨_, by rw [passReplacement?, tokenAt?_eq ends,
    tokenAt?_add ends]; rfl, ?_⟩
  rw [apply_ite fun moved => (significant tokens).drop moved,
    ← List.drop_drop]
  generalize (significant tokens).drop position = rest
  match rest with
  | [] => simp [skipReplacement, noWord]
  | [first] => simp [skipReplacement, noWord]
  | first :: second :: rest => rfl

theorem passCondition?_eq (position : Nat) :
    ∃ moved, passCondition? tokens position = some moved
      ∧ (significant tokens).drop moved
        = skipCondition ((significant tokens).drop position) := by
  have noWord := peek_nil_isThe isEnd
  refine ⟨_, by rw [passCondition?, tokenAt?_eq ends, tokenAt?_add ends,
    tokenAt?_add ends]; rfl, ?_⟩
  rw [apply_ite fun moved => (significant tokens).drop moved,
    ← List.drop_drop]
  generalize (significant tokens).drop position = rest
  match rest with
  | [] => simp [skipCondition, noWord]
  | [first] => simp [skipCondition, noWord]
  | [first, second] => simp [skipCondition, noWord]
  | first :: second :: third :: rest => rfl

theorem namesFrom?_of_short {turns position : Nat} {names : List PlainName}
    (short : (significant tokens).length ≤ position + 1) :
    namesFrom? tokens (turns + 1) names position = some none := by
  have atEnd : (significant tokens).drop (position + 1) = [] :=
    List.drop_eq_nil_of_le short
  rw [namesFrom?, tokenAt?_eq ends, tokenAt?_eq ends, atEnd]
  simp only [Option.bind_eq_bind, Option.bind_some, peek, List.head?_nil,
    Option.map_none, Option.getD_none, isEnd, reduceCtorEq, if_false]
  split <;> rfl

/-- The turns for the names are enough: each of them moves the cursor over two
tokens. -/
theorem namesFrom?_eq (turns : Nat) (names : List PlainName) (position : Nat)
    (enough : (significant tokens).length ≤ position + 2 * turns + 1) :
    namesFrom? tokens (turns + 1) names position
      = some ((names? ((significant tokens).drop position)).map fun header =>
        { header with qualifiers := names ++ header.qualifiers }) := by
  induction turns generalizing names position with
  | zero =>
      rw [namesFrom?_of_short ends isEnd enough, names?_of_short]
      · rfl
      · simp only [List.length_drop]
        omega
  | succ turns induction =>
      match left : (significant tokens).drop position with
      | [] | [_] =>
          have short := congrArg List.length left
          simp only [List.length_drop, List.length_cons,
            List.length_nil] at short
          rw [namesFrom?_of_short ends isEnd (by omega)]
          rfl
      | first :: second :: rest =>
          have later : (significant tokens).drop (position + 2) = rest := by
            rw [← List.drop_drop, left]
            rfl
          rw [namesFrom?_of_cons ends _ _ left, names?]
          cases first.1.plainName? with
          | none => rfl
          | some name =>
              simp only
              split
              case _ isDot =>
                rw [induction _ _ (by omega), later, Option.map_map]
                congr 2
                funext header
                simp
              case _ =>
                split
                · simp
                · rfl

theorem headerFrom?_eq {turns : Nat} (position : Nat)
    (enough : (significant tokens).length ≤ 2 * turns + 1) :
    headerFrom? tokens (turns + 1) position
      = some (afterCreate? ((significant tokens).drop position)) := by
  obtain ⟨replaced, passedReplacement, behindReplacement⟩ :=
    passReplacement?_eq ends isEnd position
  obtain ⟨modified, passedModifier, behindModifier⟩ :=
    passModifier?_eq ends replaced
  obtain ⟨conditioned, passedCondition, behindCondition⟩ :=
    passCondition?_eq ends isEnd (modified + 1)
  have named := namesFrom?_eq ends isEnd turns [] conditioned (by omega)
  have whole : headerFrom? tokens (turns + 1) position
      = if (peek last ((significant tokens).drop modified)).isThe "TABLE" then
          some (names? (skipCondition
            (((significant tokens).drop modified).drop 1)))
        else some none := by
    rw [List.drop_drop, ← behindCondition]
    simp only [headerFrom?, passedReplacement, passedModifier, passedCondition,
      tokenAt?_eq ends modified, Option.bind_eq_bind, Option.bind_some, named]
    split
    · simp
    · rfl
  rw [whole, afterCreate?, ← behindReplacement, ← behindModifier]
  cases (significant tokens).drop modified with
  | nil =>
      rw [peek_nil_isThe isEnd]
      rfl
  | cons table rest =>
      simp only [peek, List.head?_cons, Option.map_some, Option.getD_some,
        List.drop_succ_cons, List.drop_zero, pass?]
      split <;> rfl

theorem findSomeM?_range'_eq {turns : Nat} (position count : Nat)
    (whole : position + count = (significant tokens).length)
    (enough : (significant tokens).length ≤ 2 * turns + 1) :
    ((List.range' position count).findSomeM? fun position => do
      let token ← tokenAt? tokens position
      if token.isThe "CREATE" then
        headerFrom? tokens (turns + 1) (position + 1)
      else return none)
      = some (first? ((significant tokens).drop position)) := by
  induction count generalizing position with
  | zero =>
      rw [List.drop_eq_nil_of_le (by omega)]
      rfl
  | succ count induction =>
      have inside : position < (significant tokens).length := by omega
      have later := induction (position + 1) (by omega)
      rw [List.range'_succ, List.findSomeM?, tokenAt?_eq ends,
        headerFrom?_eq ends isEnd _ enough, later,
        List.drop_eq_getElem_cons inside, first?]
      simp only [peek, List.head?_cons, Option.map_some, Option.getD_some,
        Option.bind_eq_bind, Option.bind_some]
      split
      · cases afterCreate? ((significant tokens).drop (position + 1)) <;> rfl
      · rfl

/-- No index of the cursor is out of range, its turns are enough, and it finds
what the search finds. -/
theorem scan?_eq : scan? tokens tokens.length = some (find? tokens) := by
  have kept : (significant tokens).length ≤ tokens.length := by
    rw [← List.length_zipIdx (l := tokens) (i := 0)]
    exact List.length_filter_le _ _
  have nonempty : tokens.length ≠ 0 := by
    intro empty
    rw [List.length_eq_zero_iff.mp empty] at ends
    cases ends
  obtain ⟨turns, all⟩ := Nat.exists_eq_succ_of_ne_zero nonempty
  rw [all, scan?, List.range_eq_range', indices, List.length_map]
  exact findSomeM?_range'_eq ends isEnd 0 _ (Nat.zero_add _) (by omega)

end Search

/-- The schema is missing if no name stands in front, and else it is made of all
names in front with points between them. -/
theorem schema_of_qualifiers (header : Header) :
    header.qualifiers = [] ∧ header.schema = none
    ∨ header.qualifiers ≠ [] ∧ header.schema
      = some (("." : Text).intercalate
        (header.qualifiers.map PlainName.text)) := by
  cases found : header.qualifiers with
  | nil => simp [Header.schema, found]
  | cons qualifier qualifiers => simp [Header.schema, found]

/-- The search in the tokens of a text finds the first header of the grammar,
with the index of the parenthesis in the whole list, and nothing if there is
none.  The cursor gets there without leaving the list. -/
theorem search_stream (text : Text) :
    let tokens := Token.stream text
    let counted := significant tokens
    counted.map Prod.fst = Token.withoutBreaks tokens
    ∧ (∀ token ∈ counted, tokens[token.2]? = some token.1)
    ∧ scan? tokens tokens.length = some (find? tokens)
    ∧ (∀ header : Header,
      header.qualifiers = [] ∧ header.schema = none
      ∨ header.qualifiers ≠ [] ∧ header.schema
        = some (("." : Text).intercalate
          (header.qualifiers.map PlainName.text)))
    ∧ ((find? tokens).isSome = true
      ↔ ∃ position header, Begins (counted.drop position) header)
    ∧ ∀ header, find? tokens = some header
      ↔ ∃ position, Begins (counted.drop position) header
        ∧ ∀ earlier < position, ∀ other,
          ¬Begins (counted.drop earlier) other := by
  intro tokens counted
  have ends : tokens.getLast?
      = some ⟨.endOfText, [], Place.start.behind (lexemes text)⟩ := by
    rw [show tokens = _ from Token.stream_eq text, List.getLast?_append]
    rfl
  refine ⟨map_fst_significant tokens, ?_, scan?_eq ends rfl,
    schema_of_qualifiers, isSome_first?_iff,
    fun header => first?_eq_some_iff⟩
  intro token member
  exact getElem?_of_mem_significant member

end Header

end SchemaSheet
