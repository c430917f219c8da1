import SchemaSheet.Proofs.Table.Outcome

/-!
# Dividing a block

The division of a block into declarations, token by token, with the depth that
it counts on the way.  `closes_and_divides` says that this depth agrees with the
one that the search for the end of the block counts, and that the declarations
are the block in its order without the tokens that end one.
-/

namespace SchemaSheet

namespace Block

/-- What the division knows in front of a token: the depth of parentheses, the
tokens of the declaration that is still open, and the complete ones. -/
structure Division where
  depth : Int
  current : List Token
  complete : List (List Token)

namespace Division

/-- In front of a block. -/
def start : Division := ⟨0, [], []⟩

/-- The declarations so far, if the open one ends here.  Nothing is declared
without a token. -/
def declarations (division : Division) : List (List Token) :=
  division.complete ++ [division.current].filter fun piece => !piece.isEmpty

def next (division : Division) (token : Token) : Division :=
  if separates division.depth token then
    ⟨division.depth, [], division.declarations⟩
  else
    ⟨division.depth + step token, division.current ++ [token],
      division.complete⟩

def after (division : Division) (tokens : List Token) : Division :=
  tokens.foldl next division

@[simp] theorem after_nil (division : Division) :
    division.after [] = division := rfl

@[simp] theorem after_cons (division : Division) (token : Token)
    (rest : List Token) :
    division.after (token :: rest) = (division.next token).after rest := rfl

theorem declarations_after (division : Division) (tokens : List Token) :
    (division.after tokens).declarations
      = division.complete
        ++ ((division.current ++ (pieces division.depth tokens).1)
          :: (pieces division.depth tokens).2).filter
            fun piece => !piece.isEmpty := by
  induction tokens generalizing division with
  | nil => simp [declarations, pieces]
  | cons token rest induction =>
      rw [after_cons, induction, next, pieces]
      split
      · -- The open declaration ends, and the next piece begins empty.
        simp only [declarations, List.nil_append, List.append_assoc,
          List.append_nil]
        rw [← List.filter_append]
        rfl
      · simp only [List.append_assoc, List.singleton_append]

end Division

/-- The division token by token gives the declarations of a block. -/
theorem declarations_eq (block : List Token) :
    declarations block = (Division.start.after block).declarations := by
  rw [Division.declarations_after]
  rfl

/-- The tokens of a block without line breaks and without commas outside nested
parentheses. -/
def kept (block : List Token) : List Token :=
  (block.zipIdx.filter fun token =>
    !separates (balance (block.take token.2)) token.1).map Prod.fst

theorem kept_append_singleton (front : List Token) (token : Token) :
    kept (front ++ [token])
      = kept front ++ if separates (balance front) token then [] else [token]
    := by
  have earlier : (front.zipIdx.filter fun indexed =>
        !separates (balance ((front ++ [token]).take indexed.2)) indexed.1)
      = front.zipIdx.filter fun indexed =>
        !separates (balance (front.take indexed.2)) indexed.1 := by
    apply List.filter_congr
    rintro ⟨other, index⟩ member
    have inside : index < front.length := by
      have bounds := (List.mem_zipIdx member).2.1
      omega
    rw [List.take_append_of_le_length (Nat.le_of_lt inside)]
  have whole : (front ++ [token]).take front.length = front := by simp
  simp only [kept, List.zipIdx_append, List.filter_append, List.map_append,
    earlier, List.zipIdx_singleton, Nat.zero_add]
  cases ends : separates (balance front) token <;> simp [whole, ends]

namespace Division

/-- What the division knows behind the tokens `front` of a block: it has counted
their parentheses, and it has lost nothing but the tokens that end a
declaration. -/
structure Behind (front : List Token) (division : Division) : Prop where
  depth : division.depth = balance front
  conserved : division.complete.flatten ++ division.current = kept front
  nonempty : ∀ declaration ∈ division.complete, declaration ≠ []

theorem flatten_declarations (division : Division) :
    division.declarations.flatten
      = division.complete.flatten ++ division.current := by
  rw [declarations, List.flatten_append]
  cases division.current <;> simp

theorem ne_nil_of_mem_declarations {division : Division}
    (nonempty : ∀ declaration ∈ division.complete, declaration ≠ []) :
    ∀ declaration ∈ division.declarations, declaration ≠ [] := by
  intro declaration member
  rcases List.mem_append.mp member with earlier | last
  · exact nonempty declaration earlier
  · intro empty
    simp [empty] at last

theorem Behind.start : Behind [] start :=
  ⟨rfl, rfl, fun _ member => nomatch member⟩

theorem Behind.next {front : List Token} {division : Division}
    (behind : Behind front division) (token : Token) :
    Behind (front ++ [token]) (division.next token) := by
  have counted : balance (front ++ [token])
      = division.depth + step token := by
    rw [balance_append, behind.depth, balance_cons, balance_nil,
      Int.add_zero]
  have divided := kept_append_singleton front token
  rw [← behind.depth] at divided
  unfold Division.next
  split
  case isTrue ends =>
    rw [if_pos ends, List.append_nil] at divided
    rw [step_eq_zero_of_separates ends, Int.add_zero] at counted
    refine ⟨counted.symm, ?_, ne_nil_of_mem_declarations behind.nonempty⟩
    rw [List.append_nil, flatten_declarations, behind.conserved, divided]
  case isFalse inner =>
    rw [if_neg inner] at divided
    refine ⟨counted.symm, ?_, behind.nonempty⟩
    rw [← List.append_assoc, behind.conserved, divided]

theorem Behind.after {front : List Token} {division : Division}
    (behind : Behind front division) (tokens : List Token) :
    Behind (front ++ tokens) (division.after tokens) := by
  induction tokens generalizing front division with
  | nil => simpa using behind
  | cons token rest induction =>
      simpa using induction (behind.next token)

theorem behind_after (block : List Token) :
    Behind block (start.after block) :=
  Behind.start.after block

end Division

/-- A block is divided into its declarations: the depth that is counted never
falls below that of the block, at which it ends, and the declarations are what
is left of the block, in its order. -/
structure Divides (block : List Token) (declarations : List (List Token)) :
    Prop where
  /-- The division token by token gives the declarations. -/
  counted : declarations = (Division.start.after block).declarations
  nonneg : ∀ front, front <+: block →
    0 ≤ (Division.start.after front).depth
  settled : (Division.start.after block).depth = 0
  nonempty : ∀ declaration ∈ declarations, declaration ≠ []
  /-- Each declaration stands at an index of the block. -/
  placed : (declarationsAt block).map Prod.snd = declarations
  /-- No line break stands in a declaration, and commas do in nested
  parentheses only. -/
  inner : ∀ index declaration, (index, declaration) ∈ declarationsAt block →
    ∀ count token, declaration[count]? = some token →
      block[index + count]? = some token ∧ token.kind ≠ .lineBreak
        ∧ (token.kind = .comma → 0 < balance (block.take (index + count)))
  conserved : declarations.flatten = kept block

section Opening

variable {tokens : List Token} {opening closing : Nat}

theorem divides_between (closed : closeOf tokens opening = .ok closing) :
    Divides (between tokens opening closing)
      (declarations (between tokens opening closing)) := by
  have nonneg := balance_take_between_nonneg closed
  have settled := balance_between closed
  generalize between tokens opening closing = block at nonneg settled
  have behind := Division.behind_after block
  refine
    { counted := declarations_eq block
      nonneg := ?_
      settled := behind.depth.trans settled
      nonempty := fun _ member => ne_nil_of_mem_declarations member
      placed := map_snd_declarationsAt block
      inner := ?_
      conserved := ?_ }
  · intro front isFront
    rw [(Division.behind_after front).depth,
      List.prefix_iff_eq_take.mp isFront]
    exact nonneg front.length
  · intro index declaration member count token found
    obtain ⟨behindIt, whole⟩ := (standsAt_of_mem_declarationsAt member).present
    have here : block[index + count]? = some token := by
      rw [← List.getElem?_drop, ← whole,
        List.getElem?_append_left (List.getElem?_eq_some_iff.mp found).1]
      exact found
    have inside := not_separates_of_mem_starts 0 block
      (List.mem_filter.mp member).1 found
    simp only [separates, Int.zero_add, Bool.or_eq_false_iff,
      Bool.and_eq_false_iff, beq_eq_false_iff_ne] at inside
    refine ⟨here, inside.1, fun isComma => ?_⟩
    have above := nonneg (index + count)
    have apart := inside.2.resolve_left (not_not_intro isComma)
    omega
  · rw [declarations_eq, Division.flatten_declarations, behind.conserved]

theorem ofLocated_eq_error_iff {openings : List Opening} {located : Located}
    {paren : Token} {fault : ParseFault}
    (found : located.tokens[located.header.opening]? = some paren) :
    Survey.ofLocated openings located = .error fault
      ↔ ∃ depth,
        closeOf located.tokens located.header.opening = .error depth
          ∧ fault = .columnBlockNotFound paren.offset depth := by
  cases closed : closeOf located.tokens located.header.opening with
  | ok closing => simp [Survey.ofLocated, closed]
  | error depth => simp [Survey.ofLocated, closed, found, eq_comm]

/-- The search for the end of a block finds the first parenthesis up to which as
many close as open.  If there is none, it fails and tells how many more open
than close, of which there is at least one.  What it finds is divided into
declarations without loss. -/
theorem closes_and_divides {paren : Token}
    (found : tokens[opening]? = some paren)
    (opens : paren.kind = .openParen) :
    (∀ closing, closeOf tokens opening = .ok closing
      ↔ Closes tokens opening closing)
    ∧ (∀ depth : Nat, closeOf tokens opening = .error depth
      ↔ (∀ closing, ¬Closes tokens opening closing) ∧ 1 ≤ depth
        ∧ (depth : Int) = balance (tokens.drop opening))
    ∧ (∀ (openings : List Opening) (located : Located) (fault : ParseFault),
      located.tokens = tokens → located.header.opening = opening →
        (Survey.ofLocated openings located = .error fault
          ↔ (∀ closing, ¬Closes tokens opening closing)
            ∧ ∃ depth : Nat, fault = .columnBlockNotFound paren.offset depth
              ∧ 1 ≤ depth ∧ (depth : Int) = balance (tokens.drop opening)))
    ∧ ∀ closing, Closes tokens opening closing →
      Divides (between tokens opening closing)
        (declarations (between tokens opening closing)) := by
  have finds (closing : Nat) : closeOf tokens opening = .ok closing
      ↔ Closes tokens opening closing := closeOf_eq_ok_iff found opens
  have fails (depth : Nat) : closeOf tokens opening = .error depth
      ↔ (∀ closing, ¬Closes tokens opening closing) ∧ 1 ≤ depth
        ∧ (depth : Int) = balance (tokens.drop opening) := by
    rw [closeOf_eq_error_iff found opens]
    constructor
    · rintro ⟨never, remaining⟩
      have failed := (closeOf_eq_error_iff found opens).mpr ⟨never, remaining⟩
      exact ⟨never, pos_of_closeOf_eq_error failed, remaining⟩
    · rintro ⟨never, -, remaining⟩
      exact ⟨never, remaining⟩
  refine ⟨finds, fails, ?_, ?_⟩
  · rintro openings located fault rfl rfl
    rw [ofLocated_eq_error_iff found]
    simp only [fails]
    constructor
    · rintro ⟨depth, ⟨never, positive, remaining⟩, told⟩
      exact ⟨never, depth, told, positive, remaining⟩
    · rintro ⟨never, depth, told, positive, remaining⟩
      exact ⟨depth, ⟨never, positive, remaining⟩, told⟩
  · intro closing closes
    exact divides_between ((finds closing).mpr closes)

end Opening

/-- A block with a comma outside its nested parentheses and one inside them,
before a line break inside them and a comma behind the last declaration. -/
def nestedCommas : List Token := Token.stream "(a,b(c,\nd),)"

theorem divides_nestedCommas :
    nestedCommas[0]? = some ⟨.openParen, "(", .start⟩
      ∧ Closes nestedCommas 0 11
      ∧ Divides (between nestedCommas 0 11)
        (declarations (between nestedCommas 0 11)) := by
  have found : nestedCommas[0]? = some ⟨.openParen, "(", .start⟩ := by
    decide +kernel
  have closed : closeOf nestedCommas 0 = .ok 11 := by
    decide +kernel
  obtain ⟨finds, -, -, divides⟩ := closes_and_divides found rfl
  have closes := (finds 11).mp closed
  exact ⟨found, closes, divides 11 closes⟩

end Block

end SchemaSheet
