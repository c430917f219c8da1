import SchemaSheet.Table.Block

/-!
# Parentheses of a block

The balance of a list of tokens is the number of its opening parentheses less
the number of its closing ones.  The search for the end of a block finds the
first index at which the balance from the opening parenthesis on is zero, and
fails only if there is none.
-/

namespace SchemaSheet

namespace Block

/-- Opening parentheses among the tokens, less the closing ones. -/
def balance (tokens : List Token) : Int :=
  (tokens.countP fun token => token.kind == .openParen : Nat)
    - (tokens.countP fun token => token.kind == .closeParen : Nat)

@[simp] theorem balance_nil : balance [] = 0 := rfl

@[simp] theorem balance_cons (token : Token) (rest : List Token) :
    balance (token :: rest) = step token + balance rest := by
  cases kind : token.kind <;>
    simp [balance, step, kind] <;> omega

theorem balance_append (first second : List Token) :
    balance (first ++ second) = balance first + balance second := by
  simp only [balance, List.countP_append, Int.natCast_add]
  omega

theorem balance_take_succ {tokens : List Token} {index : Nat} {token : Token}
    (found : tokens[index]? = some token) :
    balance (tokens.take (index + 1))
      = balance (tokens.take index) + step token := by
  rw [List.take_add_one, found, balance_append]
  simp

theorem step_of_openParen {token : Token} (opens : token.kind = .openParen) :
    step token = 1 := by
  simp [step, opens]

theorem step_of_closeParen {token : Token}
    (closes : token.kind = .closeParen) : step token = -1 := by
  simp [step, closes]

theorem step_of_isName {token : Token} (isName : token.isName = true) :
    step token = 0 := by
  simp only [Token.isName, Bool.or_eq_true, beq_iff_eq] at isName
  rcases isName with word | quoted
  · simp [step, word]
  · simp [step, quoted]

theorem separates_of_isName {token : Token} (isName : token.isName = true)
    (depth : Int) : separates depth token = false := by
  simp only [Token.isName, Bool.or_eq_true, beq_iff_eq] at isName
  rcases isName with word | quoted
  · simp [separates, word]
  · simp [separates, quoted]

theorem step_eq_zero_of_separates {depth : Int} {token : Token}
    (ends : separates depth token = true) : step token = 0 := by
  simp only [separates, Bool.or_eq_true, Bool.and_eq_true, beq_iff_eq] at ends
  rcases ends with lineBreak | ⟨comma, -⟩
  · simp [step, lineBreak]
  · simp [step, comma]

theorem separates_zero {token : Token}
    (ends : token.kind = .comma ∨ token.kind = .lineBreak) :
    separates 0 token = true := by
  rcases ends with comma | lineBreak
  · simp [separates, comma]
  · simp [separates, lineBreak]

/-- The token after `count` further ones is the first that brings `depth` open
parentheses down to none. -/
structure ClosesAfter (depth : Nat) (tokens : List Token) (count : Nat) :
    Prop where
  inside : count < tokens.length
  balanced : (depth : Int) + balance (tokens.take (count + 1)) = 0
  open_before : ∀ earlier, earlier < count →
    0 < (depth : Int) + balance (tokens.take (earlier + 1))

/-- All of the tokens leave a parenthesis open. -/
def StaysOpen (depth : Nat) (tokens : List Token) : Prop :=
  ∀ earlier, earlier < tokens.length →
    0 < (depth : Int) + balance (tokens.take (earlier + 1))

theorem ClosesAfter.cons {depth next : Nat} {token : Token}
    {rest : List Token} {count : Nat} (positive : 0 < next)
    (moved : (next : Int) = depth + step token)
    (closes : ClosesAfter next rest count) :
    ClosesAfter depth (token :: rest) (count + 1) := by
  refine ⟨?_, ?_, ?_⟩
  · simpa using closes.inside
  · have balanced := closes.balanced
    simp only [List.take_succ_cons, balance_cons]
    omega
  · intro earlier before
    cases earlier with
    | zero =>
        simp only [List.take_succ_cons, List.take_zero, balance_cons,
          balance_nil]
        omega
    | succ earlier =>
        have stillOpen := closes.open_before earlier (by omega)
        rw [List.take_succ_cons, balance_cons]
        omega

theorem StaysOpen.cons {depth next : Nat} {token : Token}
    {rest : List Token} (positive : 0 < next)
    (moved : (next : Int) = depth + step token)
    (stays : StaysOpen next rest) : StaysOpen depth (token :: rest) := by
  intro earlier before
  cases earlier with
  | zero =>
      simp only [List.take_succ_cons, List.take_zero, balance_cons,
        balance_nil]
      omega
  | succ earlier =>
      have stillOpen := stays earlier (by simpa using before)
      rw [List.take_succ_cons, balance_cons]
      omega

theorem StaysOpen.pos {depth : Nat} {tokens : List Token}
    (positive : 0 < depth) (stays : StaysOpen depth tokens) :
    0 < (depth : Int) + balance tokens := by
  cases tokens with
  | nil => simpa using positive
  | cons token rest =>
      have stillOpen := stays rest.length (Nat.lt_succ_self _)
      rwa [← List.length_cons, List.take_length] at stillOpen

/-- What the search for the end of a block finds: the first token that closes
the block, or the parentheses that stay open. -/
theorem close_spec (depth index : Nat) (tokens : List Token)
    (positive : 0 < depth) :
    match close depth index tokens with
    | .ok closing =>
        ∃ count, closing = index + count ∧ ClosesAfter depth tokens count
    | .error final =>
        StaysOpen depth tokens ∧ (final : Int) = depth + balance tokens := by
  induction tokens generalizing depth index with
  | nil => simp [close, StaysOpen]
  | cons token rest induction =>
      have onward (next : Nat) (nextPositive : 0 < next)
          (moved : (next : Int) = depth + step token)
          (unfolded : close depth index (token :: rest)
            = close next (index + 1) rest) :
          match close depth index (token :: rest) with
          | .ok closing =>
              ∃ count, closing = index + count
                ∧ ClosesAfter depth (token :: rest) count
          | .error final =>
              StaysOpen depth (token :: rest)
                ∧ (final : Int) = depth + balance (token :: rest) := by
        rw [unfolded]
        have later := induction next (index + 1) nextPositive
        cases result : close next (index + 1) rest with
        | ok closing =>
            simp only [result] at later
            obtain ⟨count, place, closes⟩ := later
            exact ⟨count + 1, by omega, closes.cons nextPositive moved⟩
        | error final =>
            simp only [result] at later
            obtain ⟨stays, total⟩ := later
            refine ⟨stays.cons nextPositive moved, ?_⟩
            rw [balance_cons]
            omega
      by_cases opens : token.kind = .openParen
      · exact onward (depth + 1) (by omega) (by simp [step, opens])
          (by simp [close, opens])
      · by_cases closes : token.kind = .closeParen
        · by_cases last : depth = 1
          · simp only [close, closes, last, if_true]
            refine ⟨0, rfl, by simp, ?_, by simp⟩
            simp [step, closes]
          · exact onward (depth - 1) (by omega)
              (by simp only [step, closes]; omega)
              (by simp [close, closes, last])
        · exact onward depth positive (by simp [step]) (by simp [close])

/-- What brings the open parentheses down to none is a closing one. -/
theorem ClosesAfter.kind {depth count : Nat} {tokens : List Token}
    (positive : 0 < depth) (closes : ClosesAfter depth tokens count) :
    ∃ paren, tokens[count]? = some paren ∧ paren.kind = .closeParen := by
  obtain ⟨paren, found⟩ : ∃ paren, tokens[count]? = some paren :=
    ⟨_, List.getElem?_eq_getElem closes.inside⟩
  have before : 0 < (depth : Int) + balance (tokens.take count) := by
    cases count with
    | zero => simpa using positive
    | succ earlier => exact closes.open_before earlier (Nat.lt_succ_self _)
  have balanced := closes.balanced
  rw [balance_take_succ found] at balanced
  refine ⟨paren, found, ?_⟩
  have down : step paren < 0 := by omega
  unfold step at down
  split at down
  · omega
  · assumption
  · omega

/-- The tokens from one index through another. -/
def through (tokens : List Token) (first last : Nat) : List Token :=
  (tokens.take (last + 1)).drop first

/-- The parenthesis at the second index closes the one at the first: it is the
first one up to which as many close as open. -/
structure Closes (tokens : List Token) (opening closing : Nat) : Prop where
  follows : opening < closing
  inside : closing < tokens.length
  balanced : balance (through tokens opening closing) = 0
  earliest : ∀ index, opening < index → index < closing →
    balance (through tokens opening index) ≠ 0

theorem Closes.unique {tokens : List Token} {opening left right : Nat}
    (first : Closes tokens opening left)
    (second : Closes tokens opening right) : left = right := by
  rcases Nat.lt_trichotomy left right with before | same | after
  · exact absurd first.balanced (second.earliest left first.follows before)
  · exact same
  · exact absurd second.balanced (first.earliest right second.follows after)

section Opening

variable {tokens : List Token} {opening : Nat} {paren : Token}
  (found : tokens[opening]? = some paren) (opens : paren.kind = .openParen)

include found opens

theorem balance_drop_opening :
    balance (tokens.drop opening)
      = 1 + balance (tokens.drop (opening + 1)) := by
  obtain ⟨inside, place⟩ := List.getElem?_eq_some_iff.mp found
  rw [List.drop_eq_getElem_cons inside, place, balance_cons]
  simp [step, opens]

theorem balance_through (count : Nat) :
    balance (through tokens opening (opening + 1 + count))
      = 1 + balance ((tokens.drop (opening + 1)).take (count + 1)) := by
  obtain ⟨inside, place⟩ := List.getElem?_eq_some_iff.mp found
  have length : opening + 1 + count + 1 - opening = count + 2 := by omega
  rw [through, List.drop_take, length, List.drop_eq_getElem_cons inside, place,
    List.take_succ_cons, balance_cons]
  simp [step, opens]

theorem Closes.of_closesAfter {count : Nat}
    (closes : ClosesAfter 1 (tokens.drop (opening + 1)) count) :
    Closes tokens opening (opening + 1 + count) := by
  have inside := closes.inside
  simp only [List.length_drop] at inside
  refine ⟨by omega, by omega, ?_, ?_⟩
  · rw [balance_through found opens]
    exact closes.balanced
  · intro index after before
    obtain ⟨earlier, rfl⟩ : ∃ earlier, index = opening + 1 + earlier :=
      ⟨index - (opening + 1), by omega⟩
    have stillOpen := closes.open_before earlier (by omega)
    rw [balance_through found opens]
    omega

theorem not_closes_of_staysOpen
    (stays : StaysOpen 1 (tokens.drop (opening + 1))) (closing : Nat) :
    ¬Closes tokens opening closing := by
  intro closes
  have follows := closes.follows
  have inside := closes.inside
  obtain ⟨count, rfl⟩ : ∃ count, closing = opening + 1 + count :=
    ⟨closing - (opening + 1), by omega⟩
  have balanced := closes.balanced
  have stillOpen := stays count (by simp only [List.length_drop]; omega)
  rw [balance_through found opens] at balanced
  omega

theorem closeOf_eq_ok_iff {closing : Nat} :
    closeOf tokens opening = .ok closing ↔ Closes tokens opening closing := by
  have spec := close_spec 1 (opening + 1)
    (tokens.drop (opening + 1)) Nat.one_pos
  change match closeOf tokens opening with | .ok _ => _ | .error _ => _ at spec
  cases result : closeOf tokens opening with
  | ok actual =>
      simp only [result] at spec
      obtain ⟨count, rfl, closesAfter⟩ := spec
      have closes := Closes.of_closesAfter found opens closesAfter
      constructor
      · intro same
        cases same
        exact closes
      · intro other
        rw [closes.unique other]
  | error final =>
      simp only [result] at spec
      constructor
      · intro impossible
        cases impossible
      · intro closes
        exact absurd closes
          (not_closes_of_staysOpen found opens spec.1 closing)

/-- The search fails exactly if nothing closes the block, and then it tells how
many parentheses are open at the end. -/
theorem closeOf_eq_error_iff {final : Nat} :
    closeOf tokens opening = .error final
      ↔ (∀ closing, ¬Closes tokens opening closing)
        ∧ (final : Int) = balance (tokens.drop opening) := by
  have spec := close_spec 1 (opening + 1)
    (tokens.drop (opening + 1)) Nat.one_pos
  change match closeOf tokens opening with | .ok _ => _ | .error _ => _ at spec
  rw [balance_drop_opening found opens]
  cases result : closeOf tokens opening with
  | ok actual =>
      simp only [result] at spec
      obtain ⟨count, rfl, closesAfter⟩ := spec
      constructor
      · intro impossible
        cases impossible
      · intro never
        exact absurd (Closes.of_closesAfter found opens closesAfter)
          (never.1 _)
  | error actual =>
      simp only [result] at spec
      obtain ⟨stays, total⟩ := spec
      constructor
      · intro same
        cases same
        exact ⟨not_closes_of_staysOpen found opens stays, total⟩
      · intro never
        have same : actual = final := by omega
        rw [same]

omit found opens in
theorem pos_of_closeOf_eq_error {final : Nat}
    (failed : closeOf tokens opening = .error final) : 0 < final := by
  have spec := close_spec 1 (opening + 1)
    (tokens.drop (opening + 1)) Nat.one_pos
  rw [closeOf] at failed
  simp only [failed] at spec
  have stillOpen := spec.1.pos Nat.one_pos
  omega

end Opening

section Closed

variable {tokens : List Token} {opening closing : Nat}
  (closed : closeOf tokens opening = .ok closing)

include closed

theorem exists_closesAfter_of_closeOf :
    ∃ count, closing = opening + 1 + count
      ∧ ClosesAfter 1 (tokens.drop (opening + 1)) count
      ∧ between tokens opening closing
        = (tokens.drop (opening + 1)).take count := by
  have spec := close_spec 1 (opening + 1)
    (tokens.drop (opening + 1)) Nat.one_pos
  rw [closeOf] at closed
  simp only [closed] at spec
  obtain ⟨count, rfl, closes⟩ := spec
  have shorter : opening + 1 + count - (opening + 1) = count := by omega
  exact ⟨count, rfl, closes, by rw [between, List.drop_take, shorter]⟩

theorem kind_of_closeOf :
    ∃ paren, tokens[closing]? = some paren ∧ paren.kind = .closeParen := by
  obtain ⟨count, rfl, closes, -⟩ := exists_closesAfter_of_closeOf closed
  have found := closes.kind Nat.one_pos
  rw [List.getElem?_drop] at found
  exact found

/-- Inside a block no parenthesis is closed that has not been opened there. -/
theorem balance_take_between_nonneg (count : Nat) :
    0 ≤ balance ((between tokens opening closing).take count) := by
  obtain ⟨length, -, closes, inner⟩ := exists_closesAfter_of_closeOf closed
  rw [inner, List.take_take]
  cases taken : min count length with
  | zero => simp
  | succ earlier =>
      have stillOpen := closes.open_before earlier (by omega)
      omega

/-- In a block as many parentheses close as open. -/
theorem balance_between : balance (between tokens opening closing) = 0 := by
  obtain ⟨count, -, closes, inner⟩ := exists_closesAfter_of_closeOf closed
  obtain ⟨paren, found, isClosing⟩ := closes.kind Nat.one_pos
  have balanced := closes.balanced
  rw [balance_take_succ found, step_of_closeParen isClosing] at balanced
  rw [inner]
  omega

end Closed

end Block

end SchemaSheet
