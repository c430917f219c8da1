/-!
# Ranges of code points

Character classes beyond ASCII are written as lists of closed ranges.
-/

namespace SchemaSheet

/-- A closed range of code points. -/
abbrev CodeRange := Nat × Nat

namespace CodeRange

/-- The code point lies between both bounds. -/
def holds (range : CodeRange) (code : Nat) : Bool :=
  Nat.ble range.1 code && Nat.ble code range.2

/-- The code point lies in one of the ranges. -/
def anyHolds (ranges : List CodeRange) (code : Nat) : Bool :=
  ranges.any fun range => range.holds code

/-- Every range of the first list lies inside one range of the second. -/
def covered (inner outer : List CodeRange) : Bool :=
  inner.all fun small =>
    outer.any fun large => Nat.ble large.1 small.1 && Nat.ble small.2 large.2

/-- No range of the first list meets one of the second. -/
def apart (first second : List CodeRange) : Bool :=
  first.all fun left =>
    second.all fun right => Nat.blt left.2 right.1 || Nat.blt right.2 left.1

/-- The code points in the ranges. -/
def listed (ranges : List CodeRange) : List Nat :=
  ranges.flatMap fun range => List.range' range.1 (range.2 + 1 - range.1)

theorem holds_iff {range : CodeRange} {code : Nat} :
    range.holds code = true ↔ range.1 ≤ code ∧ code ≤ range.2 := by
  simp [holds]

/-- A class whose ranges are covered by those of another is a part of it. -/
theorem anyHolds_of_covered {inner outer : List CodeRange} {code : Nat}
    (inside : covered inner outer = true)
    (member : anyHolds inner code = true) : anyHolds outer code = true := by
  simp only [anyHolds, List.any_eq_true] at member ⊢
  obtain ⟨small, smallMember, smallHolds⟩ := member
  simp only [covered, List.all_eq_true, List.any_eq_true] at inside
  obtain ⟨large, largeMember, wider⟩ := inside small smallMember
  refine ⟨large, largeMember, ?_⟩
  simp only [holds, Bool.and_eq_true, Nat.ble_eq] at smallHolds wider ⊢
  omega

theorem anyHolds_of_apart {first second : List CodeRange} {code : Nat}
    (disjoint : apart first second = true)
    (member : anyHolds first code = true) : anyHolds second code = false := by
  obtain ⟨left, leftMember, inside⟩ := List.any_eq_true.mp member
  refine List.any_eq_false.mpr fun right rightMember within => ?_
  have bounds := holds_iff.mp inside
  have others := holds_iff.mp within
  simp only [apart, List.all_eq_true, Bool.or_eq_true, Nat.blt_eq] at disjoint
  have far := disjoint left leftMember right rightMember
  omega

theorem mem_listed {ranges : List CodeRange} {code : Nat}
    (member : anyHolds ranges code = true) : code ∈ listed ranges := by
  obtain ⟨range, given, inside⟩ := List.any_eq_true.mp member
  have bounds := holds_iff.mp inside
  refine List.mem_flatMap.mpr ⟨range, given, ?_⟩
  rw [List.mem_range'_1]
  omega

end CodeRange

end SchemaSheet
