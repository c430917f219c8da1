import SchemaSheet.Proofs.Table.Balance

/-!
# Where declarations stand

The declarations of a block with the index in the block at which each begins.
They stand in the block in this order, without overlapping, and each begins
either at the front or right behind a token that ends a declaration.
-/

namespace SchemaSheet

namespace Block

/-- Pieces with the indices at which they begin, where one token stands between
any two of them. -/
def starts (index : Nat) : List (List Token) → List (Nat × List Token)
  | [] => []
  | piece :: rest => (index, piece) :: starts (index + piece.length + 1) rest

/-- The pieces of a block, from the first one on. -/
def allPieces (depth : Int) (block : List Token) : List (List Token) :=
  (pieces depth block).1 :: (pieces depth block).2

/-- An empty piece stands in front of the token that ends it. -/
theorem allPieces_cons_of_separates {depth : Int} {token : Token}
    (ends : separates depth token = true) (rest : List Token) :
    allPieces depth (token :: rest) = [] :: allPieces depth rest := by
  simp [allPieces, pieces, ends]

theorem allPieces_cons_of_inner {depth : Int} {token : Token}
    (inner : separates depth token = false) (rest : List Token) :
    allPieces depth (token :: rest)
      = (token :: (pieces (depth + step token) rest).1)
        :: (pieces (depth + step token) rest).2 := by
  simp [allPieces, pieces, inner]

/-- A token that ends a declaration parts the pieces in front of it from the
ones behind it, which do not depend on each other. -/
theorem allPieces_append_separator {depth : Int} {token : Token}
    (front rest : List Token)
    (ends : separates (depth + balance front) token = true) :
    allPieces depth (front ++ token :: rest)
      = allPieces depth front ++ allPieces (depth + balance front) rest := by
  induction front generalizing depth with
  | nil =>
      rw [balance_nil, Int.add_zero] at ends ⊢
      rw [List.nil_append, allPieces_cons_of_separates ends]
      rfl
  | cons first later induction =>
      rw [balance_cons, ← Int.add_assoc] at ends ⊢
      rw [List.cons_append]
      by_cases separated : separates depth first = true
      · have still : depth + step first = depth := by
          rw [step_eq_zero_of_separates separated, Int.add_zero]
        rw [still] at ends ⊢
        rw [allPieces_cons_of_separates separated,
          allPieces_cons_of_separates separated, induction ends]
        rfl
      · have inner : separates depth first = false :=
          Bool.eq_false_iff.mpr separated
        obtain ⟨head, tail⟩ := List.cons.inj (induction ends)
        rw [allPieces_cons_of_inner inner, allPieces_cons_of_inner inner, head,
          tail]
        rfl

/-- The declarations of a block with the indices at which they begin. -/
def declarationsAt (block : List Token) : List (Nat × List Token) :=
  (starts 0 (allPieces 0 block)).filter fun piece => !piece.2.isEmpty

/-- The piece stands at the index, behind nothing or behind a token that ends a
declaration at the depth that is reached there. -/
structure StandsAt (depth : Int) (block : List Token) (index : Nat)
    (piece : List Token) : Prop where
  present : piece <+: block.drop index
  edge : index = 0 ∨ ∃ earlier token, index = earlier + 1
    ∧ block[earlier]? = some token
    ∧ separates (depth + balance (block.take earlier)) token = true

/-- The first piece ends before the second begins. -/
def Before (first second : Nat × List Token) : Prop :=
  first.1 + first.2.length < second.1

theorem map_snd_starts (index : Nat) (pieces : List (List Token)) :
    (starts index pieces).map Prod.snd = pieces := by
  induction pieces generalizing index with
  | nil => rfl
  | cons piece rest induction => simp [starts, induction]

theorem map_snd_declarationsAt (block : List Token) :
    (declarationsAt block).map Prod.snd = declarations block := by
  have whole := map_snd_starts 0 (allPieces 0 block)
  have divided : declarations block
      = (allPieces 0 block).filter fun piece => !piece.isEmpty := rfl
  rw [divided, ← whole, List.filter_map]
  rfl

/-- The tokens that pieces take, with one more behind each of them. -/
def spread : List (List Token) → Nat
  | [] => 0
  | piece :: rest => piece.length + 1 + spread rest

theorem starts_append (index : Nat) (first second : List (List Token)) :
    starts index (first ++ second)
      = starts index first ++ starts (index + spread first) second := by
  induction first generalizing index with
  | nil => rfl
  | cons piece rest induction =>
      have onward : index + spread (piece :: rest)
          = index + piece.length + 1 + spread rest := by
        simp only [spread, Nat.add_assoc]
      rw [List.cons_append, starts, induction, onward]
      rfl

theorem spread_allPieces (depth : Int) (block : List Token) :
    spread (allPieces depth block) = block.length + 1 := by
  induction block generalizing depth with
  | nil => rfl
  | cons token rest induction =>
      by_cases ends : separates depth token = true
      · have later := induction depth
        rw [allPieces_cons_of_separates ends]
        simp only [spread, List.length_nil, List.length_cons] at later ⊢
        omega
      · have later := induction (depth + step token)
        rw [allPieces_cons_of_inner (Bool.eq_false_iff.mpr ends)]
        simp only [spread, allPieces, List.length_cons] at later ⊢
        omega

theorem le_of_mem_starts {index : Nat} {pieces : List (List Token)}
    {piece : Nat × List Token} (member : piece ∈ starts index pieces) :
    index ≤ piece.1 := by
  induction pieces generalizing index with
  | nil => cases member
  | cons first rest induction =>
      rcases List.mem_cons.mp member with here | later
      · subst here
        exact Nat.le_refl _
      · have bound := induction later
        omega

theorem pairwise_starts (index : Nat) (pieces : List (List Token)) :
    (starts index pieces).Pairwise Before := by
  induction pieces generalizing index with
  | nil => exact List.Pairwise.nil
  | cons piece rest induction =>
      refine List.Pairwise.cons ?_ (induction _)
      intro later member
      have bound := le_of_mem_starts member
      simp only [Before]
      omega

theorem pairwise_declarationsAt (block : List Token) :
    (declarationsAt block).Pairwise Before :=
  (pairwise_starts 0 _).filter _

theorem mem_starts_succ {index : Nat} {pieces : List (List Token)}
    {place : Nat} {piece : List Token} :
    (place, piece) ∈ starts (index + 1) pieces
      ↔ ∃ earlier, place = earlier + 1
        ∧ (earlier, piece) ∈ starts index pieces := by
  induction pieces generalizing index with
  | nil => simp [starts]
  | cons first rest induction =>
      have shifted : index + 1 + first.length + 1
          = (index + first.length + 1) + 1 := by omega
      simp only [starts, List.mem_cons, Prod.mk.injEq, shifted, induction]
      constructor
      · rintro (⟨rfl, rfl⟩ | ⟨earlier, rfl, member⟩)
        · exact ⟨index, rfl, .inl ⟨rfl, rfl⟩⟩
        · exact ⟨earlier, rfl, .inr member⟩
      · rintro ⟨earlier, rfl, ⟨rfl, rfl⟩ | member⟩
        · exact .inl ⟨rfl, rfl⟩
        · exact .inr ⟨earlier, rfl, member⟩

theorem StandsAt.cons {depth next : Int} {token : Token} {rest : List Token}
    {index : Nat} {piece : List Token} (moved : next = depth + step token)
    (stands : StandsAt next rest index piece)
    (first : index = 0 → separates depth token = true) :
    StandsAt depth (token :: rest) (index + 1) piece := by
  refine ⟨stands.present, .inr ?_⟩
  rcases stands.edge with front | ⟨earlier, last, rfl, found, ends⟩
  · exact ⟨0, token, by rw [front], rfl, by simpa using first front⟩
  · refine ⟨earlier + 1, last, rfl, by simpa using found, ?_⟩
    rw [List.take_succ_cons, balance_cons, ← Int.add_assoc, ← moved]
    exact ends

theorem standsAt_of_mem_starts (depth : Int) (block : List Token)
    {index : Nat} {piece : List Token}
    (member : (index, piece) ∈ starts 0 (allPieces depth block)) :
    StandsAt depth block index piece := by
  induction block generalizing depth index piece with
  | nil =>
      simp only [allPieces, pieces, starts, List.mem_singleton,
        Prod.mk.injEq] at member
      obtain ⟨rfl, rfl⟩ := member
      exact ⟨List.nil_prefix, .inl rfl⟩
  | cons token rest induction =>
      by_cases ends : separates depth token = true
      · rw [allPieces_cons_of_separates ends, starts, List.mem_cons,
          Prod.mk.injEq] at member
        rcases member with ⟨rfl, rfl⟩ | later
        · exact ⟨List.nil_prefix, .inl rfl⟩
        · obtain ⟨earlier, rfl, found⟩ := mem_starts_succ.mp later
          refine (induction depth found).cons ?_ (fun _ => ends)
          rw [step_eq_zero_of_separates ends, Int.add_zero]
      · rw [allPieces_cons_of_inner (Bool.eq_false_iff.mpr ends), starts,
          List.mem_cons, Prod.mk.injEq] at member
        rcases member with ⟨rfl, rfl⟩ | later
        · have whole := induction (depth + step token)
            (List.mem_cons_self ..)
          exact ⟨List.cons_prefix_cons.mpr ⟨rfl, whole.present⟩, .inl rfl⟩
        · obtain ⟨earlier, rfl, found⟩ := mem_starts_succ.mp later
          have positive := le_of_mem_starts found
          have whole := induction (depth + step token)
            (List.mem_cons_of_mem _ (by simpa using found))
          refine whole.cons rfl ?_
          intro front
          simp [front] at positive

/-- No token of a piece ends a declaration at the depth that is reached there. -/
theorem not_separates_of_mem_starts (depth : Int) (block : List Token)
    {index count : Nat} {piece : List Token} {token : Token}
    (member : (index, piece) ∈ starts 0 (allPieces depth block))
    (found : piece[count]? = some token) :
    separates (depth + balance (block.take (index + count))) token
      = false := by
  induction block generalizing depth index piece count with
  | nil =>
      simp only [allPieces, pieces, starts, List.mem_singleton,
        Prod.mk.injEq] at member
      rw [member.2] at found
      cases found
  | cons first rest induction =>
      have onward {next : Int} {earlier count : Nat} {piece : List Token}
          (moved : next = depth + step first)
          (later : (earlier, piece) ∈ starts 0 (allPieces next rest))
          (found : piece[count]? = some token) :
          separates (depth
            + balance ((first :: rest).take (earlier + 1 + count))) token
              = false := by
        have inner := induction next later found
        rw [Nat.add_right_comm, List.take_succ_cons, balance_cons,
          ← Int.add_assoc, ← moved]
        exact inner
      by_cases ends : separates depth first = true
      · rw [allPieces_cons_of_separates ends, starts, List.mem_cons,
          Prod.mk.injEq] at member
        rcases member with ⟨-, rfl⟩ | behind
        · cases found
        · obtain ⟨earlier, rfl, later⟩ := mem_starts_succ.mp behind
          refine onward ?_ later found
          rw [step_eq_zero_of_separates ends, Int.add_zero]
      · rw [allPieces_cons_of_inner (Bool.eq_false_iff.mpr ends), starts,
          List.mem_cons, Prod.mk.injEq] at member
        rcases member with ⟨rfl, rfl⟩ | behind
        · cases count with
          | zero =>
              cases found
              simpa using ends
          | succ count =>
              have inner := onward rfl (List.mem_cons_self ..) found
              rw [Nat.zero_add, Nat.add_comm 1 count] at inner
              rwa [Nat.zero_add]
        · obtain ⟨earlier, rfl, later⟩ := mem_starts_succ.mp behind
          exact onward rfl
            (List.mem_cons_of_mem _ (by simpa using later)) found

theorem standsAt_of_mem_declarationsAt {block : List Token} {index : Nat}
    {declaration : List Token}
    (member : (index, declaration) ∈ declarationsAt block) :
    StandsAt 0 block index declaration :=
  standsAt_of_mem_starts 0 block (List.mem_filter.mp member).1

theorem getElem?_of_standsAt {tokens : List Token} {opening closing : Nat}
    {depth : Int} {declaration : List Token} {index count : Nat} {token : Token}
    (stands : StandsAt depth (between tokens opening closing) index declaration)
    (found : declaration[count]? = some token) :
    opening + 1 + index + count < closing
      ∧ tokens[opening + 1 + index + count]? = some token := by
  obtain ⟨behind, whole⟩ := stands.present
  have taken : (tokens.take closing)[opening + 1 + index + count]?
      = some token := by
    rw [← List.getElem?_drop, ← List.drop_drop, ← between, ← whole,
      List.getElem?_append_left (List.getElem?_eq_some_iff.mp found).1]
    exact found
  rw [List.getElem?_take] at taken
  split at taken
  case _ inside => exact ⟨inside, taken⟩
  case _ => cases taken

theorem sublist_of_mem_declarations {block : List Token}
    {declaration : List Token}
    (member : declaration ∈ declarations block) :
    declaration.Sublist block := by
  rw [← map_snd_declarationsAt] at member
  obtain ⟨⟨index, piece⟩, found, rfl⟩ := List.mem_map.mp member
  have stands := standsAt_of_mem_declarationsAt found
  exact stands.present.sublist.trans (List.drop_sublist _ _)

theorem ne_nil_of_mem_declarationsAt {block declaration : List Token}
    {index : Nat} (member : (index, declaration) ∈ declarationsAt block) :
    declaration ≠ [] := by
  have kept := (List.mem_filter.mp member).2
  rintro rfl
  cases kept

theorem ne_nil_of_mem_declarations {block : List Token}
    {declaration : List Token}
    (member : declaration ∈ declarations block) : declaration ≠ [] := by
  have nonempty := (List.mem_filter.mp member).2
  intro empty
  simp [empty] at nonempty

end Block

end SchemaSheet
