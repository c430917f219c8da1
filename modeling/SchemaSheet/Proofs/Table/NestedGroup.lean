import SchemaSheet.Proofs.Table.Occurrence
import SchemaSheet.Table.Declaration

/-!
# Groups in parentheses

Tokens in which every parenthesis is closed are passed as a whole by the search
for the end of a type, and tokens of which none ends a declaration are passed as
a whole by the division of a block.  A declaration between tokens that end one
is therefore found where it stands.
-/

namespace SchemaSheet

namespace Block

/-- As many parentheses close as open, and none closes that has not been
opened. -/
structure Nested (tokens : List Token) : Prop where
  nonneg : ∀ count, count ≤ tokens.length → 0 ≤ balance (tokens.take count)
  settled : balance tokens = 0

/-- No token ends a declaration, where `depth` parentheses are open in front of
the first one. -/
def Unparted (depth : Int) (tokens : List Token) : Prop :=
  ∀ index (inside : index < tokens.length),
    separates (depth + balance (tokens.take index)) tokens[index] = false

instance (depth : Int) (tokens : List Token) :
    Decidable (Unparted depth tokens) :=
  inferInstanceAs (Decidable (∀ index (inside : index < tokens.length),
    separates (depth + balance (tokens.take index)) tokens[index] = false))

theorem unparted_nil (depth : Int) : Unparted depth [] := by
  intro index inside
  cases inside

theorem unparted_cons {depth : Int} {token : Token} {rest : List Token} :
    Unparted depth (token :: rest)
      ↔ separates depth token = false
        ∧ Unparted (depth + step token) rest := by
  constructor
  · intro unparted
    refine ⟨?_, ?_⟩
    · simpa using unparted 0 (Nat.zero_lt_succ _)
    · intro index inside
      have later := unparted (index + 1) (Nat.succ_lt_succ inside)
      rwa [List.take_succ_cons, balance_cons, ← Int.add_assoc] at later
  · rintro ⟨first, later⟩ index inside
    cases index with
    | zero => simpa using first
    | succ index =>
        rw [List.take_succ_cons, balance_cons, ← Int.add_assoc]
        exact later index (Nat.lt_of_succ_lt_succ inside)

theorem unparted_append {depth : Int} {front rest : List Token} :
    Unparted depth (front ++ rest)
      ↔ Unparted depth front ∧ Unparted (depth + balance front) rest := by
  induction front generalizing depth with
  | nil => simp [unparted_nil]
  | cons token later induction =>
      rw [List.cons_append, unparted_cons, unparted_cons, induction,
        balance_cons, Int.add_assoc, and_assoc]

/-- Only a comma outside parentheses and a line break end a declaration. -/
theorem separates_eq_false {depth : Int} {token : Token}
    (noBreak : token.kind ≠ .lineBreak)
    (comma : token.kind = .comma → depth ≠ 0) :
    separates depth token = false := by
  simp only [separates, Bool.or_eq_false_iff, beq_eq_false_iff_ne,
    Bool.and_eq_false_iff]
  refine ⟨noBreak, ?_⟩
  by_cases isComma : token.kind = .comma
  · exact .inr (comma isComma)
  · exact .inl isComma

theorem Nested.unparted {tokens : List Token} (nested : Nested tokens)
    (unbroken : ∀ token ∈ tokens, token.kind ≠ .lineBreak) :
    Unparted 1 tokens := by
  intro index inside
  have above := nested.nonneg index (Nat.le_of_lt inside)
  apply separates_eq_false (unbroken _ (List.getElem_mem inside))
  intro
  omega

theorem pieces_append_of_unparted {depth : Int} {front : List Token}
    (unparted : Unparted depth front) (rest : List Token) :
    pieces depth (front ++ rest)
      = (front ++ (pieces (depth + balance front) rest).1,
        (pieces (depth + balance front) rest).2) := by
  induction front generalizing depth with
  | nil => simp
  | cons token later induction =>
      obtain ⟨inner, further⟩ := unparted_cons.mp unparted
      rw [List.cons_append, pieces, if_neg (Bool.eq_false_iff.mp inner),
        induction further, balance_cons, Int.add_assoc]
      rfl

section Standing

variable {front declaration behind : List Token}

/-- A declaration that runs to the end or to a token that ends it is the first
piece. -/
theorem exists_allPieces_of_unparted (unparted : Unparted 0 declaration)
    (ends : ∀ next, behind.head? = some next →
      separates (balance declaration) next = true) :
    ∃ others, allPieces 0 (declaration ++ behind) = declaration :: others := by
  have empty : (pieces (0 + balance declaration) behind).1 = [] := by
    rw [Int.zero_add]
    cases behind with
    | nil => rfl
    | cons next later => simp [pieces, ends next rfl]
  refine ⟨(pieces (0 + balance declaration) behind).2, ?_⟩
  rw [allPieces, pieces_append_of_unparted unparted, empty, List.append_nil]

/-- What stands in front of a declaration takes its own tokens only. -/
theorem exists_allPieces_append (level : balance front = 0)
    (begins : ∀ last, front.getLast? = some last →
      last.kind = .comma ∨ last.kind = .lineBreak) (rest : List Token) :
    ∃ earlier, allPieces 0 (front ++ rest) = earlier ++ allPieces 0 rest
      ∧ spread earlier = front.length := by
  rcases List.eq_nil_or_concat front with rfl | ⟨inner, last, rfl⟩
  · exact ⟨[], rfl, rfl⟩
  · rw [List.concat_eq_append] at level begins ⊢
    have parts := separates_zero (begins last (by simp))
    have still : balance inner = 0 := by
      rw [balance_append, balance_cons, balance_nil,
        step_eq_zero_of_separates parts] at level
      simpa using level
    have ends : separates (0 + balance inner) last = true := by rwa [still]
    have divided := allPieces_append_separator inner rest ends
    rw [still, Int.add_zero] at divided
    refine ⟨allPieces 0 inner, ?_, ?_⟩
    · rw [← divided]
      simp
    · rw [spread_allPieces]
      simp

theorem exists_declarationsAt (level : balance front = 0)
    (begins : ∀ last, front.getLast? = some last →
      last.kind = .comma ∨ last.kind = .lineBreak)
    (nonempty : declaration ≠ []) (unparted : Unparted 0 declaration)
    (ends : ∀ next, behind.head? = some next →
      separates (balance declaration) next = true) :
    ∃ before after, declarationsAt (front ++ declaration ++ behind)
      = before ++ (front.length, declaration) :: after := by
  obtain ⟨earlier, divided, length⟩ :=
    exists_allPieces_append level begins (declaration ++ behind)
  obtain ⟨others, first⟩ := exists_allPieces_of_unparted unparted ends
  rw [first] at divided
  refine ⟨(starts 0 earlier).filter fun piece => !piece.2.isEmpty,
    (starts (front.length + declaration.length + 1) others).filter
      fun piece => !piece.2.isEmpty, ?_⟩
  rw [declarationsAt, List.append_assoc, divided, starts_append, length,
    Nat.zero_add, starts, List.filter_append,
    List.filter_cons_of_pos (by simpa using nonempty)]

end Standing

end Block

namespace Declaration

/-- The search for a closing parenthesis passes tokens that leave one open all
the way. -/
theorem closing?_append_of_open {depth next : Nat} {piece rest : List Token}
    (stays : ∀ count, count ≤ piece.length →
      0 < (depth : Int) + Block.balance (piece.take count))
    (reached : (next : Int) = depth + Block.balance piece) :
    closing? depth (piece ++ rest) = closing? next rest := by
  induction piece generalizing depth with
  | nil =>
      have same : next = depth := by
        rw [Block.balance_nil] at reached
        omega
      rw [same, List.nil_append]
  | cons token later induction =>
      have onward (after : Nat)
          (moved : (after : Int) = depth + Block.step token) :
          closing? after (later ++ rest) = closing? next rest := by
        apply induction
        · intro count inside
          have above := stays (count + 1) (Nat.succ_le_succ inside)
          rw [List.take_succ_cons, Block.balance_cons] at above
          omega
        · rw [Block.balance_cons] at reached
          omega
      have first := stays 1 (Nat.succ_le_succ (Nat.zero_le _))
      simp only [List.take_succ_cons, List.take_zero, Block.balance_cons,
        Block.balance_nil, Int.add_zero] at first
      rw [List.cons_append, closing?]
      split
      case _ opens =>
        exact onward (depth + 1) (by simp [Block.step_of_openParen opens])
      case _ closes =>
        have down := Block.step_of_closeParen closes
        rw [if_neg (by omega)]
        exact onward (depth - 1) (by omega)
      case _ noOpening noClosing =>
        exact onward depth (by simp [Block.step])

theorem closing?_nested {inside : List Token} (nested : Block.Nested inside)
    {closes : Token} (isClosing : closes.kind = .closeParen)
    (rest : List Token) :
    closing? 1 (inside ++ closes :: rest) = some (closes, rest) := by
  have stays : ∀ count, count ≤ inside.length →
      0 < ((1 : Nat) : Int) + Block.balance (inside.take count) := by
    intro count within
    have above := nested.nonneg count within
    omega
  have reached : ((1 : Nat) : Int) = (1 : Nat) + Block.balance inside := by
    rw [nested.settled, Int.add_zero]
  rw [closing?_append_of_open stays reached]
  simp [closing?, isClosing]

end Declaration

end SchemaSheet
