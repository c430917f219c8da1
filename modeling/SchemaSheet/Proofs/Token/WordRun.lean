import SchemaSheet.Proofs.Token.Coordinates

/-!
# Runs of word characters

Word characters that stand side by side belong to the same lexeme, whatever
its kind.  Where such a run begins a lexeme, it is a word, unless it consists
of digits only: these are a number, or what stands in front of its point.
`keepsWords_tokenize` says so for the tokens of every text.
-/

namespace SchemaSheet

namespace Text

/-- The text consists of one or more digits. -/
structure AreDigits (text : Text) : Prop where
  nonempty : text ≠ []
  digits : ∀ char ∈ text, isDigit char = true

/-- The text consists of digits, or of digits on both sides of a point. -/
inductive IsNumeral : Text → Prop where
  | whole {digits : Text} (areDigits : AreDigits digits) : IsNumeral digits
  | fraction {digits decimals : Text} (areDigits : AreDigits digits)
      (areDecimals : AreDigits decimals) :
      IsNumeral (digits ++ .of '.' :: decimals)

/-- The text consists of word characters, and not all of them are digits. -/
structure IsWord (text : Text) : Prop where
  words : ∀ char ∈ text, isWordChar char = true
  letter : ∃ char ∈ text, isDigit char = false

theorem AreDigits.beginsWord {text : Text} (areDigits : text.AreDigits) :
    Lexeme.beginsWord text = true := by
  obtain ⟨char, later, rfl⟩ := List.exists_cons_of_ne_nil areDigits.nonempty
  exact isWordChar_of_isDigit (areDigits.digits char List.mem_cons_self)

theorem beginsWord_append {text : Text} (rest : Text)
    (begins : Lexeme.beginsWord text = true) :
    Lexeme.beginsWord (text ++ rest) = true := by
  cases text with
  | nil => cases begins
  | cons char later => exact begins

theorem IsNumeral.beginsWord {text : Text} (isNumeral : text.IsNumeral) :
    Lexeme.beginsWord text = true := by
  cases isNumeral with
  | whole areDigits => exact areDigits.beginsWord
  | fraction areDigits areDecimals =>
      exact beginsWord_append _ areDigits.beginsWord

theorem IsWord.beginsWord {text : Text} (isWord : text.IsWord) :
    Lexeme.beginsWord text = true := by
  obtain ⟨char, member, -⟩ := isWord.letter
  obtain ⟨first, later, rfl⟩ :=
    List.exists_cons_of_ne_nil (List.ne_nil_of_mem member)
  exact isWord.words first List.mem_cons_self

end Text

namespace Lexeme

/-- Both are word characters. -/
def AreWordChars (last next : Character) : Prop :=
  isWordChar last = true ∧ isWordChar next = true

/-- What words, numbers and operators consist of in front of `rest`. -/
def IsSpelled (lexeme : Lexeme) (rest : Text) : Prop :=
  match lexeme.kind with
  | .word => lexeme.text.IsWord ∧ beginsWord rest = false
  | .number => lexeme.text.IsNumeral ∧ beginsWord rest = false
  | .operator => ∃ char, lexeme.text = [char] ∧ isWordChar char = false
  | _ => True

theorem IsSpelled.touches_none {lexeme : Lexeme} {rest : Text}
    (spelled : lexeme.IsSpelled rest)
    (kind : lexeme.kind = .word ∨ lexeme.kind = .number) :
    beginsWord lexeme.text = true ∧ beginsWord rest = false := by
  rw [IsSpelled] at spelled
  rcases kind with isWord | isNumber
  · simp only [isWord] at spelled
    exact ⟨spelled.1.beginsWord, spelled.2⟩
  · simp only [isNumber] at spelled
    exact ⟨spelled.1.beginsWord, spelled.2⟩

theorem areDigits_run {char : Character} (digit : isDigit char = true)
    (text : Text) :
    Text.AreDigits (char :: text.take (runLength isDigit text)) :=
  ⟨List.cons_ne_nil _ _, forall_mem_run digit text⟩

/-- Where digits go on as a word, a character of the word is no digit. -/
theorem exists_letter_of_beginsWord {text : Text}
    (begins : beginsWord (text.drop (runLength isDigit text)) = true) :
    ∃ letter ∈ text.takeWhile isWordChar, isDigit letter = false := by
  have stops := head?_drop_runLength isDigit text
  have whole := text.take_append_drop (runLength isDigit text)
  have digits : ∀ char ∈ text.takeWhile isDigit, isWordChar char = true :=
    fun _ inside => isWordChar_of_isDigit (List.mem_takeWhile_imp inside)
  rw [take_runLength] at whole
  cases rest : text.drop (runLength isDigit text) with
  | nil =>
      rw [rest] at begins
      cases begins
  | cons letter later =>
      rw [rest] at begins stops whole
      have isLetter : isWordChar letter = true := by
        simpa [beginsWord] using begins
      refine ⟨letter, ?_, by simpa using stops⟩
      rw [← whole, List.takeWhile_append_of_pos digits,
        List.takeWhile_cons_of_pos isLetter]
      exact List.mem_append_right _ List.mem_cons_self

theorem beginsWord_drop_numeral (text : Text) :
    beginsWord (text.drop (numeral text).2) = false := by
  unfold numeral
  simp only
  split
  case _ length fraction =>
    obtain ⟨rest, point, -, ends, rfl⟩ := exists_of_fractionLength? fraction
    rw [← List.drop_drop, point, List.drop_succ_cons]
    exact ends
  case _ =>
    split
    case _ => exact head?_drop_runLength isWordChar text
    case _ ends => exact Bool.eq_false_iff.mpr ends

theorem isSpelled_numeral {char : Character} (digit : isDigit char = true)
    (text : Text) :
    IsSpelled ⟨(numeral text).1, char :: text.take (numeral text).2⟩
      (text.drop (numeral text).2) := by
  have ends := beginsWord_drop_numeral text
  unfold numeral at ends ⊢
  simp only at ends ⊢
  split at ends
  case _ length fraction =>
    obtain ⟨rest, point, positive, -, rfl⟩ :=
      exists_of_fractionLength? fraction
    refine ⟨?_, ends⟩
    have decimals : Text.AreDigits (rest.take (runLength isDigit rest)) := by
      rw [take_runLength]
      exact
        { nonempty := List.length_pos_iff.mp positive
          digits := fun _ inside => List.mem_takeWhile_imp inside }
    rw [List.take_add, point, List.take_succ_cons, ← List.cons_append]
    exact .fraction (areDigits_run digit text) decimals
  case _ =>
    cases begins : beginsWord (text.drop (runLength isDigit text)) with
    | true =>
        obtain ⟨letter, inside, noDigit⟩ := exists_letter_of_beginsWord begins
        simp only [begins, if_true] at ends ⊢
        refine ⟨⟨forall_mem_run (isWordChar_of_isDigit digit) text, letter,
          ?_, noDigit⟩, ends⟩
        rw [take_runLength]
        exact List.mem_cons_of_mem _ inside
    | false => exact ⟨.whole (areDigits_run digit text), begins⟩

theorem isSpelled_first (char : Character) (text : Text) :
    IsSpelled ⟨(first char text).1, char :: text.take (first char text).2⟩
      (text.drop (first char text).2) := by
  have described := Starter.describes_of char
  have sorted := Starter.sorted_of char
  rw [first_eq_read]
  generalize Starter.of char = starter at described sorted ⊢
  have operator (other : starter ≠ .digit ∧ starter ≠ .letter) :
      IsSpelled ⟨.operator, [char]⟩ text :=
    ⟨char, rfl,
      Starter.isWordChar_of_describes described other.1 other.2⟩
  cases starter with
  | dash =>
      rw [Starter.read]
      split
      · exact trivial
      · exact operator (by simp)
  | slash =>
      rw [Starter.read, slash.eq_def]
      split
      · split
        · exact trivial
        · exact operator (by simp)
      · exact operator (by simp)
  | hash | carriageReturn | blank => exact trivial
  | quote kind escapes =>
      rw [Starter.read, quoted]
      split
      · rcases sorted with rfl | rfl
        · exact trivial
        · exact trivial
      · exact operator (by simp)
  | digit => exact isSpelled_numeral described text
  | letter =>
      exact ⟨⟨forall_mem_run described.1 text, char, List.mem_cons_self,
        described.2⟩, head?_drop_runLength isWordChar text⟩
  | alone kind =>
      have others : ∀ kind ∈ Starter.loneKinds,
          kind ≠ .word ∧ kind ≠ .number := by decide
      obtain ⟨noWord, noNumber⟩ := others kind sorted
      cases kind with
      | word => exact absurd rfl noWord
      | number => exact absurd rfl noNumber
      | operator => exact operator (by simp)
      | _ => exact trivial

theorem isInLine_of_isWordChar {char : Character}
    (word : isWordChar char = true) : isInLine char = true := by
  rw [isInLine, Bool.and_eq_true, bne_iff_ne, bne_iff_ne]
  exact ⟨Starter.ne_of_mem_marks word (by decide),
    Starter.ne_of_mem_marks word (by decide)⟩

theorem beginsWord_drop_runLength {accepts : Character → Bool}
    (accepted : ∀ char, isWordChar char = true → accepts char = true)
    (text : Text) :
    beginsWord (text.drop (runLength accepts text)) = false := by
  have stops := head?_drop_runLength accepts text
  cases rest : text.drop (runLength accepts text) with
  | nil => rfl
  | cons next later =>
      rw [rest] at stops
      apply Bool.eq_false_iff.mpr
      intro begins
      rw [List.head?_cons, Option.any_some, accepted next begins] at stops
      cases stops

/-- The last character of a lexeme belongs to no word, unless it is a word, a
number or a comment on a line. -/
theorem Starter.isWordChar_of_closes {starter : Starter}
    {char last : Character} (described : starter.Describes char)
    (closes : starter.Closes char last)
    (other : starter ∉ [dash, hash, digit, letter]) :
    isWordChar last = false := by
  cases starter with
  | dash | hash | digit | letter => exact absurd (by simp) other
  | slash | carriageReturn =>
      obtain rfl := closes
      exact isWordChar_of_mem_marks (by decide)
  | blank => exact isWordChar_of_isLineBlank closes
  | quote kind escapes =>
      obtain rfl := closes
      exact isWordChar_of_isQuote described.1
  | alone kind => exact closes.elim

/-- A lexeme ends with a character of no word, or in front of one. -/
theorem ends_first (char : Character) (text : Text) :
    (∀ final ∈ (char :: text.take (first char text).2).getLast?,
        isWordChar final = false)
      ∨ beginsWord (text.drop (first char text).2) = false := by
  have described := Starter.describes_of char
  have closing := (Starter.of char).lastOf_read char text
  rw [first_eq_read]
  generalize Starter.of char = starter at described closing ⊢
  have single (other : starter ≠ .digit ∧ starter ≠ .letter) :
      ∀ final ∈ [char].getLast?, isWordChar final = false := by
    rintro final ⟨⟩
    exact Starter.isWordChar_of_describes described other.1 other.2
  cases starter with
  | dash =>
      rw [Starter.read]
      split
      · exact .inr (beginsWord_drop_runLength
          (fun _ => isInLine_of_isWordChar) text)
      · exact .inl (single (by simp))
  | hash =>
      exact .inr (beginsWord_drop_runLength
        (fun _ => isInLine_of_isWordChar) text)
  | digit => exact .inr (beginsWord_drop_numeral text)
  | letter => exact .inr (beginsWord_drop_runLength (fun _ => id) text)
  | slash | carriageReturn | blank | quote | alone =>
      refine .inl ?_
      rcases closing with none | last
      · rw [none]
        exact single (by simp)
      · obtain ⟨other, same, closes⟩ := last.getLast? char
        rw [same]
        rintro final ⟨⟩
        exact Starter.isWordChar_of_closes described closes (by simp)

/-- No lexeme ends between word characters. -/
theorem fenced_words {text : Text} {front later : List Lexeme}
    (divided : lexemes text = front ++ later) :
    Text.Fenced AreWordChars (front.flatMap Lexeme.text)
      (later.flatMap Lexeme.text) := by
  refine fenced_of_divided ?_ divided
  rintro char rest final ends next begins ⟨finalWord, nextWord⟩
  rcases ends_first char rest with noWord | stops
  · rw [noWord final ends] at finalWord
    cases finalWord
  · rw [beginsWord, Option.mem_def.mp begins, Option.any_some,
      nextWord] at stops
    cases stops

end Lexeme

namespace Text

/-- A word character stands at the index. -/
def isWordCharAt (text : Text) (index : Nat) : Bool :=
  text[index]?.any isWordChar

theorem isWordCharAt_eq (text : Text) (index : Nat) :
    text.isWordCharAt index = Lexeme.beginsWord (text.drop index) := by
  rw [isWordCharAt, Lexeme.beginsWord, List.head?_drop]

end Text

/-- No place between lexemes lies between word characters. -/
theorem Place.ne_of_isWordCharAt {text : Text} {front later : List Lexeme}
    {index : Nat} (divided : lexemes text = front ++ later)
    (word : text.isWordCharAt index = true)
    (goesOn : text.isWordCharAt (index + 1) = true) :
    (Place.start.behind front).offset ≠ index + 1 := by
  intro same
  have fenced := Lexeme.fenced_words divided
  rw [← take_behind divided, ← drop_behind divided, same] at fenced
  obtain ⟨last, found, isWord⟩ := (Option.any_eq_true _ _).mp word
  obtain ⟨next, nextFound, nextWord⟩ := (Option.any_eq_true _ _).mp goesOn
  refine fenced last ?_ next ?_ ⟨isWord, nextWord⟩
  · rw [List.take_add_one, found]
    exact List.getLast?_concat
  · rw [List.head?_drop]
    exact nextFound

namespace Token

/-- The character at the index is one of the token. -/
def Holds (token : Token) (index : Nat) : Prop :=
  token.offset ≤ index ∧ index < token.stop

/-- How a token keeps words of the text together.  Of two word characters that
stand side by side it holds both or none.  An operator is a single character of
no word, a word is not all digits, a number consists of digits, but for a point
between them, and no word character touches a word or a number. -/
structure KeepsWords (text : Text) (token : Token) : Prop where
  together : ∀ index, text.isWordCharAt index = true →
    text.isWordCharAt (index + 1) = true →
    (token.Holds index ↔ token.Holds (index + 1))
  operator : token.kind = .operator →
    ∃ char, token.text = [char] ∧ isWordChar char = false
  word : token.kind = .word → token.text.IsWord
  number : token.kind = .number → token.text.IsNumeral
  apart : token.kind = .word ∨ token.kind = .number →
    (∀ index, index + 1 = token.offset → text.isWordCharAt index = false)
      ∧ text.isWordCharAt token.stop = false

theorem stop_behind (lexeme : Lexeme) (front : List Lexeme) :
    stop ⟨lexeme.kind, lexeme.text, Place.start.behind front⟩
      = (Place.start.behind (front ++ [lexeme])).offset := by
  rw [Place.behind_append, Place.behind_cons, Place.behind_nil,
    Place.offset_after]
  rfl

section ReadBehind

variable {text : Text} {front : List Lexeme} {token : Token}

theorem ReadBehind.isSpelled (behind : ReadBehind text front token) :
    Lexeme.IsSpelled ⟨token.kind, token.text⟩ (text.drop token.stop) := by
  obtain ⟨lexeme, later, divided, rfl⟩ := behind
  obtain ⟨char, rest, made, left⟩ := Lexeme.exists_first_of_divided divided
  rw [List.append_cons] at divided
  rw [stop_behind, Place.drop_behind divided, left, made]
  exact Lexeme.isSpelled_first char rest

theorem ReadBehind.together (behind : ReadBehind text front token)
    {index : Nat} (word : text.isWordCharAt index = true)
    (goesOn : text.isWordCharAt (index + 1) = true) :
    token.Holds index ↔ token.Holds (index + 1) := by
  obtain ⟨lexeme, later, divided, rfl⟩ := behind
  have noStart := Place.ne_of_isWordCharAt divided word goesOn
  rw [List.append_cons] at divided
  have noEnd := Place.ne_of_isWordCharAt divided word goesOn
  rw [← stop_behind] at noEnd
  simp only [Holds, offset] at noStart noEnd ⊢
  omega

theorem ReadBehind.isWordCharAt_front (behind : ReadBehind text front token)
    (begins : Lexeme.beginsWord token.text = true) {index : Nat}
    (inFront : index + 1 = token.offset) :
    text.isWordCharAt index = false := by
  obtain ⟨lexeme, later, divided, rfl⟩ := behind
  apply Bool.eq_false_iff.mpr
  intro word
  refine Place.ne_of_isWordCharAt divided word ?_ inFront.symm
  rw [inFront, Text.isWordCharAt_eq, offset, Place.drop_behind divided]
  exact Text.beginsWord_append _ begins

theorem ReadBehind.keepsWords (behind : ReadBehind text front token) :
    token.KeepsWords text := by
  have spelled := behind.isSpelled
  refine ⟨fun _ => behind.together, ?_, ?_, ?_, ?_⟩
  · intro isOperator
    simpa only [Lexeme.IsSpelled, isOperator] using spelled
  · intro isWord
    simp only [Lexeme.IsSpelled, isWord] at spelled
    exact spelled.1
  · intro isNumber
    simp only [Lexeme.IsSpelled, isNumber] at spelled
    exact spelled.1
  · intro kind
    obtain ⟨begins, ends⟩ := spelled.touches_none kind
    rw [Text.isWordCharAt_eq]
    exact ⟨fun _ => behind.isWordCharAt_front begins, ends⟩

end ReadBehind

theorem keepsWords_endOfText (text : Text) (place : Place) :
    KeepsWords text ⟨.endOfText, [], place⟩ := by
  refine ⟨?_, nofun, nofun, nofun, nofun⟩
  intro index word goesOn
  simp only [Holds, stop, List.length_nil]
  omega

end Token

namespace Text

/-- Behind `before`, the text goes on with word characters, and then with
`rest`, which begins with none. -/
structure HasRun (text before run rest : Text) : Prop where
  whole : text = before ++ (run ++ rest)
  nonempty : run ≠ []
  words : ∀ char ∈ run, isWordChar char = true
  ends : Lexeme.beginsWord rest = false

/-- A lexeme of the text begins at the offset, or the text ends there. -/
def StartsAt (text : Text) (offset : Nat) : Prop :=
  ∃ token ∈ placed .start (lexemes text), token.offset = offset

end Text

namespace Lexeme

/-- What the lexeme is that begins with a run of word characters: a word, which
is the run, unless these are digits.  Digits are a number, or what stands in
front of its point. -/
def Reads (run : Text) (lexeme : Lexeme) : Prop :=
  if run.all isDigit = true then
    lexeme.kind = .number ∧ run <+: lexeme.text
  else lexeme.kind = .word ∧ lexeme.text = run

theorem Reads.isKept {run : Text} {lexeme : Lexeme} (reads : lexeme.Reads run)
    (keepBreaks : Bool) : Token.isKept keepBreaks lexeme.kind = true := by
  have kind : lexeme.kind = .number ∨ lexeme.kind = .word := by
    rw [Reads] at reads
    split at reads
    · exact .inl reads.1
    · exact .inr reads.1
  rcases kind with same | same
  all_goals
    rw [same]
    cases keepBreaks <;> rfl

variable {text before run rest : Text}

theorem exists_lexemes_of_hasRun (hasRun : text.HasRun before run rest) :
    ∃ lexeme later, lexemes (run ++ rest) = lexeme :: later
      ∧ lexeme.Reads run := by
  by_cases digits : run.all isDigit = true
  · obtain ⟨char, others, rfl⟩ :=
      List.exists_cons_of_ne_nil hasRun.nonempty
    obtain ⟨digit, otherDigits⟩ :=
      List.forall_mem_cons.mp (List.all_eq_true.mp digits)
    rw [List.cons_append, lexemes_cons, first_of_digit digit,
      numeral_digits otherDigits hasRun.ends]
    refine ⟨_, _, rfl, ?_⟩
    rw [Reads, if_pos digits, List.take_length_add_append]
    exact ⟨rfl, List.prefix_append (char :: others) _⟩
  · have plain : Text.isPlainName run = true := by
      simpa [Text.isPlainName, hasRun.nonempty] using hasRun.words
    have notNumber := Bool.eq_false_iff.mpr digits
    refine ⟨_, _, lexemes_word plain notNumber hasRun.ends, ?_⟩
    rw [Reads, if_neg digits]
    exact ⟨rfl, rfl⟩

end Lexeme

namespace Token

theorem mem_tokenize_of_divided {keepBreaks : Bool} {text : Text}
    {front later : List Lexeme} {lexeme : Lexeme}
    (divided : lexemes text = front ++ lexeme :: later)
    (kept : isKept keepBreaks lexeme.kind = true) :
    lexeme.tokenAt (Place.start.behind front) ∈ tokenize keepBreaks text := by
  rw [tokenize_eq, placed_eq, divided, tokensAt_append]
  refine List.mem_filter.mpr ⟨?_, kept⟩
  exact List.mem_append_left _
    (List.mem_append_right _ List.mem_cons_self)

/-- A run of word characters is a token, where it begins a lexeme. -/
theorem exists_token_of_hasRun {text before run rest : Text}
    (hasRun : text.HasRun before run rest)
    (starts : text.StartsAt before.length) (keepBreaks : Bool) :
    ∃ token ∈ tokenize keepBreaks text,
      token.offset = before.length
        ∧ Lexeme.Reads run ⟨token.kind, token.text⟩ := by
  obtain ⟨mark, member, begins⟩ := starts
  obtain ⟨front, later, divided, place⟩ := exists_front_of_mem_placed member
  rw [offset, place] at begins
  have left := Place.drop_behind divided
  have behind := Lexeme.lexemes_suffix divided
  rw [begins, hasRun.whole, List.drop_left] at left
  obtain ⟨lexeme, others, read, reads⟩ :=
    Lexeme.exists_lexemes_of_hasRun hasRun
  rw [← left, read] at behind
  rw [← behind] at divided
  exact ⟨lexeme.tokenAt (Place.start.behind front),
    mem_tokenize_of_divided divided (reads.isKept keepBreaks), begins, reads⟩

/-- Words of a text are never cut: every token keeps them together, and a run
of word characters that begins a lexeme is a word, unless these are digits. -/
theorem keepsWords_tokenize (keepBreaks : Bool) (text : Text) :
    (∀ token ∈ tokenize keepBreaks text, token.KeepsWords text)
      ∧ ∀ before run rest, text.HasRun before run rest →
        text.StartsAt before.length →
        ∃ token ∈ tokenize keepBreaks text,
          token.offset = before.length
            ∧ Lexeme.Reads run ⟨token.kind, token.text⟩ := by
  refine ⟨?_, ?_⟩
  · intro token member
    rw [tokenize_eq] at member
    rcases readBehind_of_mem_placed (List.mem_filter.mp member).1 with
      ⟨front, behind⟩ | rfl
    · exact behind.keepsWords
    · exact keepsWords_endOfText text _
  · intro before run rest hasRun starts
    exact exists_token_of_hasRun hasRun starts keepBreaks

/-- A text in which digits stand in front of letters, once behind a point. -/
def digitLedText : Text := "1.5x 2024_q"

example : (tokenize false digitLedText).map Token.text
    = ["1", ".", "5x", "2024_q", ""] := by
  decide +kernel

theorem keepsWords_tokenize_digitLed :
    digitLedText.HasRun "1." "5x" " 2024_q" ∧ digitLedText.StartsAt 2
      ∧ ∃ token ∈ tokenize false digitLedText,
        token.offset = 2 ∧ Lexeme.Reads "5x" ⟨token.kind, token.text⟩ := by
  have hasRun : digitLedText.HasRun "1." "5x" " 2024_q" :=
    { whole := rfl
      nonempty := by decide
      words := by decide +kernel
      ends := by decide +kernel }
  have starts : digitLedText.StartsAt 2 :=
    ⟨⟨.word, "5x", ⟨1, 3, 2⟩⟩, by decide +kernel, rfl⟩
  exact ⟨hasRun, starts, (keepsWords_tokenize false digitLedText).2 _ _ _
    hasRun starts⟩

end Token

end SchemaSheet
