import SchemaSheet.Proofs.Token.Starter

/-!
# Lexemes of a truncated text

A lexeme that ends before a text is cut is read in the truncated text as well.
Only a number looks further than one character ahead, and then at digits only.
`Settled` rules out that the cut changes what it sees.
-/

namespace SchemaSheet

namespace Lexeme

theorem runLength_take (accepts : Character → Bool) (text : Text)
    (count : Nat) :
    runLength accepts (text.take count)
      = min count (runLength accepts text) := by
  rw [runLength, ← List.take_takeWhile, List.length_take]
  rfl

/-- A search for an end, in a whole text and in the part of it that has the
given number of characters: the end is the same if it lies in the part, and
there is none in the part if there is none at all. -/
structure Truncates (count : Nat) (whole part : Option Nat) : Prop where
  closed : ∀ length, whole = some length → length ≤ count →
    part = some length
  unclosed : whole = none → part = none

@[simp] theorem Truncates.refl (count : Nat) (whole : Option Nat) :
    Truncates count whole whole := by
  constructor
  · intro length found inside
    exact found
  · exact id

/-- An end that is further away is not found in the part. -/
theorem Truncates.short {count : Nat} {whole : Option Nat}
    (further : ∀ length, whole = some length → count < length) :
    Truncates count whole none := by
  constructor
  · intro length found inside
    exact absurd inside (Nat.not_le_of_gt (further length found))
  · intro nothing
    rfl

@[simp] theorem Truncates.of_lt {count length : Nat}
    (further : count < length) (part : Option Nat) :
    Truncates count (some length) part := by
  refine ⟨?_, nofun⟩
  intro other found inside
  cases found
  omega

theorem Truncates.map {count : Nat} {whole part : Option Nat} (step : Nat)
    (truncates : Truncates count whole part) :
    Truncates (count + step) (whole.map (· + step)) (part.map (· + step)) := by
  constructor
  · intro length found inside
    obtain ⟨inner, innerFound, rfl⟩ := Option.map_eq_some_iff.mp found
    rw [truncates.closed inner innerFound (by omega)]
    rfl
  · intro none
    rw [truncates.unclosed (Option.map_eq_none_iff.mp none)]
    rfl

theorem Truncates.short_map {count step : Nat} (whole : Option Nat)
    (further : count < step) :
    Truncates count (whole.map (· + step)) none := by
  apply Truncates.short
  intro length found
  obtain ⟨inner, -, rfl⟩ := Option.map_eq_some_iff.mp found
  omega

theorem blockCommentLength?_take (text : Text) (count : Nat) :
    Truncates count (blockCommentLength? text)
      (blockCommentLength? (text.take count)) := by
  induction text using blockCommentLength?.induct generalizing count with
  | case1 =>
      rw [List.take_nil]
      exact .refl _ _
  | case2 rest =>
      match count with
      | 0 | 1 => exact .of_lt (by decide) _
      | count + 2 => exact .refl _ _
  | case3 char rest onward induction =>
      rw [blockCommentLength?.eq_3 _ _ onward]
      cases count with
      | zero => exact .short_map _ Nat.one_pos
      | succ count =>
          have stillOnward : ∀ later, char = .of '*' →
              rest.take count = .of '/' :: later → False := by
            intro later star slash
            have front := List.take_append_drop count rest
            rw [slash] at front
            exact onward _ star front.symm
          rw [List.take_succ_cons, blockCommentLength?.eq_3 _ _ stillOnward]
          exact (induction count).map 1

theorem quotedLength?_escaped {quote char next : Character} {escapes : Bool}
    {rest : Text} (other : char ≠ quote)
    (escaped : (escapes && char == .of '\\') = true)
    (inLine : next ≠ .of '\n') :
    quotedLength? quote escapes (char :: next :: rest)
      = (quotedLength? quote escapes rest).map (· + 2) := by
  rw [quotedLength?.eq_def]
  simp [other, escaped, inLine]

theorem quotedLength?_plain {quote char : Character} {escapes : Bool}
    (rest : Text) (other : char ≠ quote)
    (plain : (escapes && char == .of '\\') = false) :
    quotedLength? quote escapes (char :: rest)
      = (quotedLength? quote escapes rest).map (· + 1) := by
  rw [quotedLength?.eq_def]
  simp [other, plain]

theorem quotedLength?_take (quote : Character) (escapes : Bool) (text : Text)
    (count : Nat) :
    Truncates count (quotedLength? quote escapes text)
      (quotedLength? quote escapes (text.take count)) := by
  induction text using quotedLength?.induct quote escapes
    generalizing count with
  | case1 =>
      rw [List.take_nil]
      exact .refl _ _
  | case2 => cases count <;> simp [quotedLength?]
  | case3 later length found induction =>
      have whole : quotedLength? quote escapes (quote :: quote :: later)
          = some (length + 2) := by
        simp [quotedLength?, found]
      rw [whole]
      match count with
      | 0 | 1 => exact .of_lt (by omega) _
      | count + 2 =>
          refine ⟨?_, nofun⟩
          intro total same inside
          cases same
          have inner := (induction count).closed length found (by omega)
          simp [quotedLength?, inner]
  | case4 later found induction =>
      match count with
      | 0 | 1 => simp [quotedLength?, found]
      | count + 2 =>
          have inner := (induction count).unclosed found
          simp [quotedLength?, found, inner]
  | case5 next later other =>
      match count with
      | 0 | 1 => simp [quotedLength?, other]
      | count + 2 => simp [quotedLength?, other]
  | case6 char other escaped =>
      cases count <;> simp [quotedLength?, other, escaped]
  | case7 char other escaped later =>
      match count with
      | 0 | 1 => simp [quotedLength?, other, escaped]
      | count + 2 => simp [quotedLength?, other, escaped]
  | case8 char other escaped next later inLine induction =>
      rw [quotedLength?_escaped other escaped inLine]
      match count with
      | 0 => exact .short_map _ (by decide)
      | 1 =>
          have cut : quotedLength? quote escapes [char] = none := by
            simp [quotedLength?, other, escaped]
          rw [List.take_succ_cons, List.take_zero, cut]
          exact .short_map _ (by decide)
      | count + 2 =>
          rw [List.take_succ_cons, List.take_succ_cons,
            quotedLength?_escaped other escaped inLine]
          exact (induction count).map 2
  | case9 char rest other plain induction =>
      have plain := Bool.eq_false_iff.mpr plain
      rw [quotedLength?_plain rest other plain]
      cases count with
      | zero => exact .short_map _ Nat.one_pos
      | succ count =>
          rw [List.take_succ_cons, quotedLength?_plain _ other plain]
          exact (induction count).map 1

/-- A run of word characters at the front of the kept text does not reach the
end of it: either the lost text begins with something else, or a parenthesis is
kept. -/
def Settled (kept lost : Text) : Prop :=
  beginsWord lost = false ∨ .of '(' ∈ kept

theorem Settled.nil {lost : Text} (settled : Settled [] lost) :
    beginsWord lost = false := by
  rcases settled with ends | member
  · exact ends
  · cases member

theorem Settled.tail {char : Character} {kept lost : Text}
    (settled : Settled (char :: kept) lost) (other : char ≠ .of '(') :
    Settled kept lost := by
  rcases settled with ends | member
  · exact .inl ends
  · exact .inr (List.mem_of_ne_of_mem (Ne.symm other) member)

theorem Settled.of_drop {kept lost : Text} {count : Nat}
    (settled : Settled (kept.drop count) lost) : Settled kept lost :=
  settled.imp_right List.mem_of_mem_drop

theorem Settled.beginsWord_append {kept lost : Text}
    (settled : Settled kept lost) :
    beginsWord (kept ++ lost) = beginsWord kept := by
  cases kept with
  | nil => exact settled.nil
  | cons char kept => rfl

theorem ne_openParen_of_isDigit {char : Character}
    (digit : isDigit char = true) : char ≠ .of '(' :=
  Starter.ne_of_mem_marks (isWordChar_of_isDigit digit) (by decide)

theorem Settled.runLength_append {kept lost : Text}
    (settled : Settled kept lost) :
    runLength isDigit (kept ++ lost) = runLength isDigit kept := by
  induction kept with
  | nil =>
      have ends := settled.nil
      cases lost with
      | nil => rfl
      | cons char lost =>
          cases digit : isDigit char with
          | false => simp [runLength, digit]
          | true =>
              have word := isWordChar_of_isDigit digit
              simp [beginsWord, word] at ends
  | cons char kept induction =>
      cases digit : isDigit char with
      | false => simp [runLength, digit]
      | true =>
          have later := induction (settled.tail (ne_openParen_of_isDigit digit))
          simpa [runLength, digit] using later

theorem Settled.drop_runLength {kept lost : Text}
    (settled : Settled kept lost) :
    Settled (kept.drop (runLength isDigit kept)) lost := by
  induction kept with
  | nil => exact settled
  | cons char kept induction =>
      cases digit : isDigit char with
      | false => simpa [runLength, digit] using settled
      | true =>
          have later := induction (settled.tail (ne_openParen_of_isDigit digit))
          simpa [runLength, digit] using later

theorem runLength_le (accepts : Character → Bool) (text : Text) :
    runLength accepts text ≤ text.length :=
  (List.takeWhile_sublist accepts).length_le

theorem Settled.fractionLength?_append {kept lost : Text}
    (settled : Settled kept lost) (nonempty : kept ≠ []) :
    fractionLength? (kept ++ lost) = fractionLength? kept := by
  cases kept with
  | nil => exact absurd rfl nonempty
  | cons char kept =>
      by_cases point : char = .of '.'
      · subst point
        have later := settled.tail (by decide)
        have digits := later.runLength_append
        have behind : (kept ++ lost).drop (runLength isDigit kept)
            = kept.drop (runLength isDigit kept) ++ lost :=
          List.drop_append_of_le_length (runLength_le _ _)
        have ends := later.drop_runLength.beginsWord_append
        rw [List.cons_append, fractionLength?, fractionLength?]
        simp only [digits, behind, ends]
      · rw [List.cons_append, fractionLength?, fractionLength?]
        · intro later same
          cases same
          exact point rfl
        · intro later same
          cases same
          exact point rfl

theorem exists_of_fractionLength? {text : Text} {length : Nat}
    (found : fractionLength? text = some length) :
    ∃ rest, text = .of '.' :: rest ∧ 0 < runLength isDigit rest
      ∧ beginsWord (rest.drop (runLength isDigit rest)) = false
      ∧ length = runLength isDigit rest + 1 := by
  unfold fractionLength? at found
  split at found
  case _ rest =>
    simp only at found
    split at found
    · cases found
    case _ proper =>
      cases found
      rw [not_or, Bool.not_eq_true] at proper
      exact ⟨rest, rfl, Nat.pos_of_ne_zero proper.1, proper.2, rfl⟩
  case _ => cases found

theorem fractionLength?_pos {text : Text} {length : Nat}
    (found : fractionLength? text = some length) : 0 < length := by
  obtain ⟨rest, -, -, -, rfl⟩ := exists_of_fractionLength? found
  exact Nat.succ_pos _

theorem runLength_digits_le (text : Text) :
    runLength isDigit text ≤ runLength isWordChar text := by
  induction text with
  | nil => exact Nat.le_refl _
  | cons char text induction =>
      cases digit : isDigit char with
      | false => simp [runLength, digit]
      | true =>
          simpa [runLength, digit, isWordChar_of_isDigit digit] using induction

theorem runLength_le_numeral (text : Text) :
    runLength isDigit text ≤ (numeral text).2 := by
  unfold numeral
  simp only
  split
  · exact Nat.le_add_right _ _
  · split
    · exact runLength_digits_le text
    · exact Nat.le_refl _

theorem runLength_append_le {accepts : Character → Bool} (kept : Text)
    {rest : Text} (stops : rest.head?.any accepts = false) :
    runLength accepts (kept ++ rest) ≤ kept.length := by
  induction kept with
  | nil =>
      cases rest with
      | nil => exact Nat.le_refl _
      | cons char rest =>
          have refused : accepts char = false := by simpa using stops
          simp [runLength, refused]
  | cons char kept induction =>
      cases accepted : accepts char with
      | false => simp [runLength, accepted]
      | true => simpa [runLength, accepted] using induction

theorem runLength_of_append {accepts : Character → Bool} {kept lost : Text}
    (inside : runLength accepts (kept ++ lost) ≤ kept.length) :
    runLength accepts kept = runLength accepts (kept ++ lost) := by
  have cut := runLength_take accepts (kept ++ lost) kept.length
  rw [List.take_left] at cut
  omega

theorem numeral_of_append {kept lost : Text}
    (inside : (numeral (kept ++ lost)).2 ≤ kept.length)
    (settled : Settled (kept.drop (numeral (kept ++ lost)).2) lost) :
    numeral kept = numeral (kept ++ lost) := by
  have shorter := runLength_le_numeral (kept ++ lost)
  have digits := runLength_of_append (Nat.le_trans shorter inside)
  have behind : (kept ++ lost).drop (runLength isDigit kept)
      = kept.drop (runLength isDigit kept) ++ lost :=
    List.drop_append_of_le_length (runLength_le _ _)
  have settledRest := settled.of_drop.drop_runLength
  cases rest : kept.drop (runLength isDigit kept) with
  | nil =>
      rw [rest] at behind settledRest
      have all := List.drop_eq_nil_iff.mp rest
      cases fraction : fractionLength? lost with
      | none =>
          have ends := settledRest.nil
          have noFraction : fractionLength? [] = none := rfl
          have noWord : beginsWord [] = false := rfl
          simp [numeral, ← digits, behind, rest, fraction, ends, noFraction,
            noWord]
      | some length =>
          have positive := fractionLength?_pos fraction
          have whole : (numeral (kept ++ lost)).2
              = runLength isDigit kept + length := by
            simp [numeral, ← digits, behind, fraction]
          omega
  | cons char later =>
      rw [rest] at behind settledRest
      have fraction :=
        settledRest.fractionLength?_append (List.cons_ne_nil char later)
      have begins := settledRest.beginsWord_append
      unfold numeral at inside ⊢
      simp only [← digits, behind, rest, fraction, begins] at inside ⊢
      cases point : fractionLength? (char :: later) with
      | some length => rfl
      | none =>
          cases isWord : beginsWord (char :: later) with
          | false => rfl
          | true =>
              simp only [point, isWord, if_true] at inside ⊢
              rw [runLength_of_append inside]

theorem slash_cons_of_ne {char : Character} (rest : Text)
    (other : char ≠ .of '*') : slash (char :: rest) = (.operator, 0) := by
  rw [slash]
  intro rest same
  cases same
  exact other rfl

theorem slash_star (rest : Text) :
    slash (.of '*' :: rest) = match blockCommentLength? rest with
      | some length => (.comment, length + 1)
      | none => (.operator, 0) := rfl

theorem slash_of_append {kept lost : Text}
    (inside : (slash (kept ++ lost)).2 ≤ kept.length) :
    slash kept = slash (kept ++ lost) := by
  cases kept with
  | nil =>
      cases lost with
      | nil => rfl
      | cons char lost =>
          rw [List.nil_append] at inside ⊢
          by_cases star : char = .of '*'
          · rw [star, slash_star] at inside ⊢
            cases whole : blockCommentLength? lost with
            | none => rfl
            | some length => simp [whole] at inside
          · rw [slash_cons_of_ne lost star]
            rfl
  | cons char kept =>
      rw [List.cons_append] at inside ⊢
      by_cases star : char = .of '*'
      · have truncates := blockCommentLength?_take (kept ++ lost) kept.length
        rw [List.take_left] at truncates
        rw [star, slash_star] at inside ⊢
        rw [slash_star]
        cases whole : blockCommentLength? (kept ++ lost) with
        | none => rw [truncates.unclosed whole]
        | some length =>
            have shorter : length ≤ kept.length := by
              simpa [whole] using inside
            rw [truncates.closed length whole shorter]
      · rw [slash_cons_of_ne kept star, slash_cons_of_ne _ star]

theorem quoted_of_append {kind : Kind} {quote : Character} {escapes : Bool}
    {kept lost : Text}
    (inside : (quoted kind quote escapes (kept ++ lost)).2 ≤ kept.length) :
    quoted kind quote escapes kept
      = quoted kind quote escapes (kept ++ lost) := by
  have truncates := quotedLength?_take quote escapes (kept ++ lost) kept.length
  rw [List.take_left] at truncates
  unfold quoted at inside ⊢
  cases whole : quotedLength? quote escapes (kept ++ lost) with
  | none => rw [truncates.unclosed whole]
  | some length =>
      simp only [whole] at inside
      rw [truncates.closed length whole inside]

theorem head?_of_append {kept lost : Text} {char : Character}
    (head : (kept ++ lost).head? = some char) (nonempty : 0 < kept.length) :
    kept.head? = some char := by
  cases kept with
  | nil => cases nonempty
  | cons next kept => exact head

theorem head?_append_of_head? {kept : Text} (lost : Text) {char : Character}
    (head : kept.head? = some char) : (kept ++ lost).head? = some char := by
  rw [List.head?_append, head]
  rfl

theorem runLength_pos {accepts : Character → Bool} {text : Text}
    {char : Character} (head : text.head? = some char)
    (accepted : accepts char = true) : 0 < runLength accepts text := by
  cases text with
  | nil => cases head
  | cons next text =>
      cases head
      simp [runLength, accepted]

/-- A lexeme that ends in the kept part of a text is the same there, if no
number sees further. -/
theorem Starter.read_of_append {starter : Starter} {char : Character}
    {kept lost : Text}
    (inside : (starter.read char (kept ++ lost)).2 ≤ kept.length)
    (settled : Settled (kept.drop (starter.read char (kept ++ lost)).2)
      lost) :
    starter.read char kept = starter.read char (kept ++ lost) := by
  cases starter with
  | dash =>
      by_cases second : (kept ++ lost).head? = some (.of '-')
      · simp only [read, second, if_true] at inside ⊢
        have inLine : isInLine (.of '-') = true := rfl
        have positive := runLength_pos second inLine
        rw [head?_of_append second (by omega), if_pos rfl,
          runLength_of_append inside]
      · have other := mt (head?_append_of_head? lost) second
        simp only [read, second, other, if_false]
  | slash => exact slash_of_append inside
  | hash | blank | letter =>
      simp only [read] at inside ⊢
      rw [runLength_of_append inside]
  | carriageReturn =>
      by_cases second : (kept ++ lost).head? = some (.of '\n')
      · simp only [read, second, if_true] at inside ⊢
        rw [head?_of_append second inside, if_pos rfl]
      · have other := mt (head?_append_of_head? lost) second
        simp only [read, second, other, if_false]
  | quote kind escapes => exact quoted_of_append inside
  | digit => exact numeral_of_append inside settled
  | alone kind => rfl

theorem first_of_append {char : Character} {kept lost : Text}
    (inside : (first char (kept ++ lost)).2 ≤ kept.length)
    (settled : Settled (kept.drop (first char (kept ++ lost)).2) lost) :
    first char kept = first char (kept ++ lost) := by
  rw [first_eq_read] at inside settled ⊢
  rw [first_eq_read]
  exact Starter.read_of_append inside settled

/-- The whole text and its kept part have the same first lexeme. -/
theorem exists_common_lexeme {char : Character} {kept lost : Text}
    (inside : (first char (kept ++ lost)).2 ≤ kept.length)
    (settled : Settled (kept.drop (first char (kept ++ lost)).2) lost) :
    ∃ lexeme later, kept = lexeme.text.tail ++ later
      ∧ lexeme.text.head? = some char
      ∧ lexemes (char :: (kept ++ lost)) = lexeme :: lexemes (later ++ lost)
      ∧ lexemes (char :: kept) = lexeme :: lexemes later := by
  have same := first_of_append inside settled
  refine ⟨⟨(first char kept).1, char :: kept.take (first char kept).2⟩,
    kept.drop (first char kept).2, ?_, rfl, ?_, lexemes_cons char kept⟩
  · exact (List.take_append_drop _ _).symm
  · rw [lexemes_cons, ← same]
    rw [← same] at inside
    rw [List.take_append_of_le_length inside,
      List.drop_append_of_le_length inside]

theorem lexemes_suffix {text : Text} {front back : List Lexeme}
    (divided : lexemes text = front ++ back) :
    lexemes (back.flatMap Lexeme.text) = back := by
  induction front generalizing text with
  | nil =>
      rw [List.nil_append] at divided
      rw [← divided, flatMap_lexemes]
  | cons lexeme front induction =>
      cases text with
      | nil => simp [lexemes] at divided
      | cons char text =>
          rw [lexemes_cons, List.cons_append] at divided
          exact induction (List.cons.inj divided).2

/-- The lexemes at the front of a text are the same in a part of the text that
holds them. -/
theorem lexemes_of_append {kept lost more : Text} {front back : List Lexeme}
    (divided : lexemes (kept ++ lost) = front ++ back)
    (whole : kept = front.flatMap Lexeme.text ++ more)
    (settled : Settled more lost) : lexemes kept = front ++ lexemes more := by
  cases lost with
  | nil =>
      rw [List.append_nil] at divided
      have text := flatMap_lexemes kept
      rw [divided, List.flatMap_append, whole] at text
      rw [divided, ← lexemes_suffix divided, List.append_cancel_left text]
  | cons next lost =>
      induction front generalizing kept with
      | nil => rw [whole]; rfl
      | cons lexeme front induction =>
          cases kept with
          | nil =>
              rw [List.nil_append, lexemes_cons] at divided
              have read := (List.cons.inj divided).1
              simp [← read] at whole
          | cons char kept =>
              rw [List.cons_append, lexemes_cons] at divided
              obtain ⟨read, later⟩ := List.cons.inj divided
              let length := (first char (kept ++ next :: lost)).2
              have behind : kept = (kept ++ next :: lost).take length
                  ++ (front.flatMap Lexeme.text ++ more) := by
                rw [List.flatMap_cons, ← read, List.append_assoc] at whole
                exact (List.cons.inj whole).2
              have inside : length ≤ kept.length := by
                have sizes := congrArg List.length behind
                simp only [List.length_append, List.length_take,
                  List.length_cons] at sizes
                omega
              rw [List.take_append_of_le_length inside] at behind
              have left : kept.drop length
                  = front.flatMap Lexeme.text ++ more :=
                List.append_cancel_left
                  ((List.take_append_drop length kept).trans behind)
              have settledLeft : Settled (kept.drop length) (next :: lost) := by
                rw [left]
                exact settled.imp_right (List.mem_append_right _)
              have same := first_of_append inside settledLeft
              rw [List.drop_append_of_le_length inside] at later
              rw [lexemes_cons, same, List.cons_append,
                ← induction left later, ← read,
                List.take_append_of_le_length inside]

theorem eq_openParen {text : Text} {lexeme : Lexeme} {after : List Lexeme}
    (divided : lexemes text = lexeme :: after)
    (opens : lexeme.kind = .openParen) : lexeme = ⟨.openParen, "("⟩ := by
  cases text with
  | nil => simp [lexemes] at divided
  | cons char text =>
      have made := divided
      rw [lexemes_cons] at made
      rw [← (List.cons.inj made).1] at opens
      rw [eq_of_first_openParen opens, lexemes_openParen] at divided
      exact (List.cons.inj divided).1.symm

/-- A part of a text that holds a parenthesis has the lexemes of the text up to
the parenthesis. -/
theorem lexemes_of_openParen {kept lost : Text} {front back : List Lexeme}
    {paren : Lexeme} (divided : lexemes (kept ++ lost) = front ++ paren :: back)
    (opens : paren.kind = .openParen)
    (inside : (front.flatMap Lexeme.text).length < kept.length) :
    ∃ more, lexemes kept = front ++ paren :: lexemes more := by
  have isParen := eq_openParen (lexemes_suffix divided) opens
  have whole := flatMap_lexemes (kept ++ lost)
  rw [divided, isParen, List.flatMap_append] at whole
  rcases List.append_eq_append_iff.mp whole with
    ⟨more, keptWhole, behind⟩ | ⟨more, frontWhole, -⟩
  · cases more with
    | nil => simp [keptWhole] at inside
    | cons char more =>
        have same : char = .of '(' := (List.cons.inj behind).1.symm
        rw [same] at keptWhole
        have settled : Settled (.of '(' :: more) lost :=
          .inr List.mem_cons_self
        refine ⟨more, ?_⟩
        rw [lexemes_of_append divided keptWhole settled, lexemes_openParen,
          isParen]
  · rw [frontWhole, List.length_append] at inside
    omega

end Lexeme

end SchemaSheet
