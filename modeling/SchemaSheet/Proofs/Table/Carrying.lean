import SchemaSheet.Proofs.Token.Placement
import SchemaSheet.Table.Block

/-!
# Pieces of declarations

A piece of a declaration carries the depth of parentheses from its front to its
end, and no token of it ends the declaration.
-/

namespace SchemaSheet

namespace Block

/-- Behind the piece the search for the end of the block and the division into
declarations go on at the second depth, where they have reached the first one
in front of it. -/
structure Carries (depth next : Nat) (piece : List Token) : Prop where
  close : ∀ index rest, Block.close (depth + 1) index (piece ++ rest)
    = Block.close (next + 1) (index + piece.length) rest
  pieces : ∀ rest, Block.pieces depth (piece ++ rest)
    = (piece ++ (Block.pieces next rest).1, (Block.pieces next rest).2)

theorem Carries.nil (depth : Nat) : Carries depth depth [] := by
  constructor
  · intro index rest
    rfl
  · intro rest
    rfl

theorem Carries.append {depth middle next : Nat} {first second : List Token}
    (front : Carries depth middle first) (back : Carries middle next second) :
    Carries depth next (first ++ second) := by
  constructor
  · intro index rest
    rw [List.append_assoc, front.close, back.close, List.length_append,
      Nat.add_assoc]
  · intro rest
    rw [List.append_assoc, front.pieces, back.pieces, List.append_assoc]

theorem Carries.opening {depth : Nat} {paren : Token}
    (opens : paren.kind = .openParen) : Carries depth (depth + 1) [paren] := by
  constructor
  · intro index rest
    simp [Block.close, opens]
  · intro rest
    simp [Block.pieces, separates, step, opens]

theorem Carries.closing {depth : Nat} {paren : Token}
    (closes : paren.kind = .closeParen) :
    Carries (depth + 1) depth [paren] := by
  constructor
  · intro index rest
    simp [Block.close, closes]
  · intro rest
    have back : ((depth + 1 : Nat) : Int) + -1 = depth := by omega
    simp only [List.singleton_append, Block.pieces, separates, step, closes,
      back]
    rfl

/-- Neither a parenthesis nor a token that ends a declaration at the depth. -/
def IsInner (depth : Nat) (token : Token) : Prop :=
  token.kind ≠ .openParen ∧ token.kind ≠ .closeParen
    ∧ token.kind ≠ .lineBreak ∧ (token.kind = .comma → 0 < depth)

theorem Carries.inner {depth : Nat} {piece : List Token}
    (isInner : ∀ token ∈ piece, IsInner depth token) :
    Carries depth depth piece := by
  induction piece with
  | nil => exact .nil depth
  | cons token rest induction =>
      have first : Carries depth depth [token] := by
        obtain ⟨noOpening, noClosing, noBreak, comma⟩ :=
          isInner token List.mem_cons_self
        constructor
        · intro index rest
          rw [List.singleton_append, Block.close]
          split
          · exact absurd ‹_› noOpening
          · exact absurd ‹_› noClosing
          · rfl
        · intro rest
          have still : step token = 0 := by
            unfold step
            split
            · exact absurd ‹_› noOpening
            · exact absurd ‹_› noClosing
            · rfl
          have stays : separates depth token = false := by
            simp only [separates, Bool.or_eq_false_iff, beq_eq_false_iff_ne,
              Bool.and_eq_false_iff]
            refine ⟨noBreak, ?_⟩
            by_cases isComma : token.kind = .comma
            · have inside := comma isComma
              exact .inr (by omega)
            · exact .inl isComma
          simp [Block.pieces, stays, still]
      apply first.append
      apply induction
      intro other member
      exact isInner other (List.mem_cons_of_mem _ member)

end Block

namespace Declaration

theorem closing?_append {depth : Nat} {piece rest : List Token}
    (noOpening : ∀ token ∈ piece, token.kind ≠ .openParen)
    (noClosing : ∀ token ∈ piece, token.kind ≠ .closeParen) :
    closing? depth (piece ++ rest) = closing? depth rest := by
  induction piece with
  | nil => rfl
  | cons token later induction =>
      have laterNoOpening : ∀ other ∈ later, other.kind ≠ .openParen := by
        intro other member
        exact noOpening other (List.mem_cons_of_mem _ member)
      have laterNoClosing : ∀ other ∈ later, other.kind ≠ .closeParen := by
        intro other member
        exact noClosing other (List.mem_cons_of_mem _ member)
      have onward := induction laterNoOpening laterNoClosing
      rw [List.cons_append, closing?]
      split
      · exact absurd ‹_› (noOpening token List.mem_cons_self)
      · exact absurd ‹_› (noClosing token List.mem_cons_self)
      · exact onward

end Declaration

end SchemaSheet
