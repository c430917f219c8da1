import SchemaSheet.Proofs.Token.Starter

/-!
# Reading what is written

A word, a number, a quoted name or text and a mark of punctuation are read back
as one lexeme, whatever follows them, as long as it does not go on with them.
`unquote_quoted` says that quoting a body loses nothing.
-/

namespace SchemaSheet

namespace Text

/-- The text with every occurrence of the quote written twice. -/
def double (quote : Character) : Text → Text
  | [] => []
  | char :: rest =>
      if char = quote then quote :: quote :: double quote rest
      else char :: double quote rest

/-- The text in quotes, with the quotes inside it doubled. -/
def quoted (quote : Character) (body : Text) : Text :=
  quote :: (double quote body ++ [quote])

theorem replacePair_of_not_mem {first second char : Character} {text : Text}
    (absent : first ∉ text) : replacePair first second char text = text := by
  induction text using replacePair.induct first second with
  | case1 left right rest both induction =>
      exact absurd (both.1 ▸ List.mem_cons_self) absent
  | case2 left right rest apart induction =>
      rw [replacePair, if_neg apart,
        induction fun member => absent (List.mem_cons_of_mem _ member)]
  | case3 rest short =>
      rw [replacePair]
      exact short

theorem replacePair_cons_of_ne {first second char left : Character}
    {rest : Text} (other : left ≠ first) :
    replacePair first second char (left :: rest)
      = left :: replacePair first second char rest := by
  cases rest with
  | nil => rfl
  | cons right rest => rw [replacePair, if_neg fun both => other both.1]

theorem replacePair_double (quote : Character) (body : Text) :
    replacePair quote quote quote (double quote body) = body := by
  induction body with
  | nil => rfl
  | cons char rest induction =>
      by_cases same : char = quote
      · rw [double, if_pos same, replacePair, if_pos ⟨rfl, rfl⟩, induction,
          same]
      · rw [double, if_neg same, replacePair_cons_of_ne same, induction]

theorem unescape_double {quote : Character} {body : Text}
    (clean : .of '\\' ∉ body) : unescape quote (double quote body) = body := by
  rw [unescape, replacePair_double, replacePair_of_not_mem clean, ite_self]

theorem unquote_quoted {quote : Character} {body : Text}
    (isQuote : isQuote quote = true) (clean : .of '\\' ∉ body) :
    unquote (quoted quote body) = body := by
  have last : (double quote body ++ [quote]).getLast? = some quote := by simp
  rw [quoted, unquote, if_pos ⟨isQuote, last⟩, List.dropLast_concat,
    unescape_double clean]

theorem not_mem_of_isPlainName {name : Text} {char : Character}
    (plain : isPlainName name = true) (mark : isWordChar char = false) :
    char ∉ name := by
  intro member
  simp only [isPlainName, Bool.and_eq_true, List.all_eq_true] at plain
  rw [plain.2 char member] at mark
  cases mark

end Text

namespace Lexeme

theorem lexemes_of_first {char : Character} {piece rest : Text} {kind : Kind}
    (found : first char (piece ++ rest) = (kind, piece.length)) :
    lexemes (char :: (piece ++ rest))
      = ⟨kind, char :: piece⟩ :: lexemes rest := by
  rw [lexemes_cons, found, List.take_left, List.drop_left]

theorem runLength_append {accepts : Character → Bool} {piece rest : Text}
    (accepted : ∀ char ∈ piece, accepts char = true)
    (stops : rest.head?.any accepts = false) :
    runLength accepts (piece ++ rest) = piece.length := by
  have front : rest.takeWhile accepts = [] := by
    cases rest with
    | nil => rfl
    | cons char later =>
        have refused : ¬accepts char = true := by simpa using stops
        rw [List.takeWhile_cons_of_neg refused]
  rw [runLength, List.takeWhile_append_of_pos accepted, front,
    List.append_nil]

theorem first_of_digit {char : Character} (digit : isDigit char = true)
    (text : Text) : first char text = numeral text := by
  rw [first_eq_read, Starter.of_eq_digit digit]
  rfl

theorem first_of_letter {char : Character} (word : isWordChar char = true)
    (noDigit : isDigit char = false) (text : Text) :
    first char text = (.word, runLength isWordChar text) := by
  rw [first_eq_read, Starter.of_eq_letter word noDigit]
  rfl

theorem fractionLength?_eq_none {text : Text}
    (noPoint : text.head? ≠ some (.of '.')) : fractionLength? text = none := by
  cases text with
  | nil => rfl
  | cons char later =>
      rw [fractionLength?]
      intro later same
      simp [same] at noPoint

theorem head?_any_isDigit {rest : Text} (ends : beginsWord rest = false) :
    rest.head?.any isDigit = false := by
  cases rest with
  | nil => rfl
  | cons char later =>
      have mark : isWordChar char = false := by
        simpa [beginsWord] using ends
      simpa using isDigit_eq_false mark

/-- Digits are read as a number in front of anything but a word character, with
the fraction that they have. -/
theorem numeral_digits {digits rest : Text}
    (allDigits : ∀ char ∈ digits, isDigit char = true)
    (ends : beginsWord rest = false) :
    numeral (digits ++ rest)
      = (.number, digits.length + (fractionLength? rest).getD 0) := by
  have length := runLength_append allDigits (head?_any_isDigit ends)
  cases fraction : fractionLength? rest <;>
    simp [numeral, length, fraction, ends]

theorem numeral_of_digits {digits rest : Text}
    (allDigits : ∀ char ∈ digits, isDigit char = true)
    (ends : beginsWord rest = false) (noPoint : rest.head? ≠ some (.of '.')) :
    numeral (digits ++ rest) = (.number, digits.length) := by
  rw [numeral_digits allDigits ends, fractionLength?_eq_none noPoint]
  rfl

/-- A word that begins with digits is read as a word, because of its first
character that is no digit. -/
theorem numeral_of_word {digits rest later : Text} {letter : Character}
    (allDigits : ∀ char ∈ digits, isDigit char = true)
    (isLetter : isWordChar letter = true) (noDigit : isDigit letter = false)
    (allWord : ∀ char ∈ later, isWordChar char = true)
    (ends : beginsWord rest = false) :
    numeral (digits ++ letter :: (later ++ rest))
      = (.word, (digits ++ letter :: later).length) := by
  have digitsLength :
      runLength isDigit (digits ++ letter :: (later ++ rest))
        = digits.length :=
    runLength_append allDigits (by simpa using noDigit)
  have wordLength :
      runLength isWordChar (digits ++ letter :: (later ++ rest))
        = (digits ++ letter :: later).length := by
    have whole : ∀ char ∈ digits ++ letter :: later,
        isWordChar char = true := by
      intro char member
      rcases List.mem_append.mp member with digit | other
      · exact isWordChar_of_isDigit (allDigits char digit)
      · rcases List.mem_cons.mp other with same | inside
        · rw [same]
          exact isLetter
        · exact allWord char inside
    have length := runLength_append whole ends
    simpa using length
  have noPoint : letter ≠ .of '.' :=
    Starter.ne_of_mem_marks isLetter (by decide)
  have noFraction : fractionLength? (letter :: (later ++ rest)) = none :=
    fractionLength?_eq_none (by simpa using noPoint)
  have begins : beginsWord (letter :: (later ++ rest)) = true := by
    simpa [beginsWord] using isLetter
  simp only [numeral, digitsLength, List.drop_left, noFraction, begins,
    if_true, wordLength]

theorem exists_first_letter {text : Text} {char : Character}
    (member : char ∈ text) (noDigit : isDigit char = false) :
    ∃ digits letter later, text = digits ++ letter :: later
      ∧ (∀ other ∈ digits, isDigit other = true)
      ∧ isDigit letter = false := by
  have found : (text.find? fun other => !isDigit other).isSome = true :=
    List.find?_isSome.mpr ⟨char, member, by simp [noDigit]⟩
  obtain ⟨letter, first⟩ := Option.isSome_iff_exists.mp found
  obtain ⟨isLetter, digits, later, divided, earlier⟩ :=
    List.find?_eq_some_iff_append.mp first
  exact ⟨digits, letter, later, divided, by simpa using earlier,
    by simpa using isLetter⟩

theorem lexemes_word {word rest : Text} (plain : Text.isPlainName word = true)
    (notNumber : word.all isDigit = false) (ends : beginsWord rest = false) :
    lexemes (word ++ rest) = ⟨.word, word⟩ :: lexemes rest := by
  simp only [Text.isPlainName, Bool.and_eq_true, List.all_eq_true] at plain
  have allWord := plain.2
  cases word with
  | nil => cases notNumber
  | cons char word =>
      rw [List.cons_append]
      apply lexemes_of_first
      have isWord := allWord char List.mem_cons_self
      have restWord : ∀ other ∈ word, isWordChar other = true := by
        intro other member
        exact allWord other (List.mem_cons_of_mem _ member)
      cases digit : isDigit char with
      | false =>
          rw [first_of_letter isWord digit, runLength_append restWord ends]
      | true =>
          rw [first_of_digit digit]
          have notDigits : ∃ other ∈ word, isDigit other = false := by
            simpa [digit] using notNumber
          obtain ⟨other, member, noDigit⟩ := notDigits
          obtain ⟨digits, letter, later, rfl, allDigits, isLetter⟩ :=
            exists_first_letter member noDigit
          rw [List.append_assoc, List.cons_append]
          exact numeral_of_word allDigits (restWord letter (by simp)) isLetter
            (fun inner inside => restWord inner (by simp [inside])) ends

theorem lexemes_number {digits rest : Text} (nonempty : digits ≠ [])
    (allDigits : ∀ char ∈ digits, isDigit char = true)
    (ends : beginsWord rest = false) (noPoint : rest.head? ≠ some (.of '.')) :
    lexemes (digits ++ rest) = ⟨.number, digits⟩ :: lexemes rest := by
  cases digits with
  | nil => exact absurd rfl nonempty
  | cons char digits =>
      rw [List.cons_append]
      apply lexemes_of_first
      rw [first_of_digit (allDigits char List.mem_cons_self)]
      have restDigits : ∀ other ∈ digits, isDigit other = true := by
        intro other member
        exact allDigits other (List.mem_cons_of_mem _ member)
      exact numeral_of_digits restDigits ends noPoint

/-- A quoted body is read up to the quote behind it, in front of anything but
another quote. -/
theorem quotedLength?_double {quote : Character} {escapes : Bool}
    {body rest : Text} (clean : escapes = true → .of '\\' ∉ body)
    (ends : rest.head? ≠ some quote) :
    quotedLength? quote escapes (Text.double quote body ++ quote :: rest)
      = some ((Text.double quote body).length + 1) := by
  induction body with
  | nil =>
      cases rest with
      | nil => simp [Text.double, quotedLength?]
      | cons next later =>
          have other : next ≠ quote := by simpa using ends
          simp [Text.double, quotedLength?, other]
  | cons char body induction =>
      have restClean : escapes = true → .of '\\' ∉ body := by
        intro escaped member
        exact clean escaped (List.mem_cons_of_mem _ member)
      have whole := induction restClean
      by_cases same : char = quote
      · simp [Text.double, quotedLength?, same, whole]
      · rw [Text.double, if_neg same, List.cons_append, quotedLength?.eq_def]
        have plain : (escapes && char == .of '\\') = false := by
          cases escapes with
          | false => rfl
          | true =>
              have other : char ≠ .of '\\' := by
                intro slash
                exact clean rfl (slash ▸ List.mem_cons_self)
              simpa using other
        simp [same, plain, whole]

/-- A quoted name or text is read as one lexeme in front of anything but
another quote. -/
theorem lexemes_quoted {quote : Character} {kind : Kind} {escapes : Bool}
    {body rest : Text} (opens : Starter.of quote = .quote kind escapes)
    (clean : escapes = true → .of '\\' ∉ body)
    (ends : rest.head? ≠ some quote) :
    lexemes (Text.quoted quote body ++ rest)
      = ⟨kind, Text.quoted quote body⟩ :: lexemes rest := by
  rw [Text.quoted, List.cons_append]
  apply lexemes_of_first
  rw [first_eq_read, opens]
  simp [Starter.read, quoted, quotedLength?_double clean ends]

theorem lexemes_space {rest : Text}
    (ends : rest.head?.any isLineBlank = false) :
    lexemes (.of ' ' :: rest) = ⟨.blank, " "⟩ :: lexemes rest := by
  have starter : Starter.of ' ' = .blank :=
    Starter.of_eq_of_mem (by simp [Starter.table])
  have found : first ' ' ([] ++ rest) = (.blank, 0) := by
    rw [first_eq_read, starter, Starter.read, runLength_append (by simp) ends]
    rfl
  exact lexemes_of_first found

/-- Marks that end every lexeme but themselves, a run of blanks and quoted
pieces that are still open. -/
def endMarks : Text := " (),\n"

/-- The text begins with such a mark. -/
def Ends (rest : Text) : Prop :=
  ∃ mark ∈ endMarks, rest.head? = some mark

theorem Ends.cons {mark : Character} (rest : Text)
    (member : mark ∈ endMarks) : Ends (mark :: rest) :=
  ⟨mark, member, rfl⟩

theorem Ends.space (rest : Text) : Ends (.of ' ' :: rest) :=
  .cons rest (by decide)

theorem Ends.comma (rest : Text) : Ends (.of ',' :: rest) :=
  .cons rest (by decide)

theorem Ends.closeParen (rest : Text) : Ends (.of ')' :: rest) :=
  .cons rest (by decide)

theorem Ends.lineFeed (rest : Text) : Ends (.of '\n' :: rest) :=
  .cons rest (by decide)

theorem Ends.beginsWord {rest : Text} (ends : Ends rest) :
    beginsWord rest = false := by
  obtain ⟨mark, member, head⟩ := ends
  have inMarks : ∀ mark ∈ endMarks, mark ∈ Starter.marks := by decide
  have plain := Starter.isWordChar_of_mem_marks (inMarks mark member)
  simpa [Lexeme.beginsWord, head] using plain

theorem Ends.head?_ne {rest : Text} {other : Character} (ends : Ends rest)
    (absent : other ∉ endMarks) : rest.head? ≠ some other := by
  obtain ⟨mark, member, head⟩ := ends
  rw [head]
  intro same
  cases same
  exact absent member

theorem Ends.ne_quote {rest : Text} (ends : Ends rest) :
    rest.head? ≠ some (.of '\'') :=
  ends.head?_ne (by decide)

theorem Ends.ne_dot {rest : Text} (ends : Ends rest) :
    rest.head? ≠ some (.of '.') :=
  ends.head?_ne (by decide)

/-- Pieces with separators between them are read one by one, if each is read
by itself in front of a separator and in front of what follows. -/
theorem lexemes_intercalate {α : Type} {write : α → Text}
    {read : α → List Lexeme} {separator : Text}
    {separatorRead : List Lexeme} {ends : Text → Prop} {items : List α}
    {rest : Text} (nonempty : items ≠ [])
    (item : ∀ piece ∈ items, ∀ rest, ends rest →
      lexemes (write piece ++ rest) = read piece ++ lexemes rest)
    (separated : ∀ rest,
      lexemes (separator ++ rest) = separatorRead ++ lexemes rest)
    (separatorEnds : ∀ rest, ends (separator ++ rest)) (restEnds : ends rest) :
    lexemes (separator.intercalate (items.map write) ++ rest)
      = separatorRead.intercalate (items.map read) ++ lexemes rest := by
  induction items with
  | nil => exact absurd rfl nonempty
  | cons first others induction =>
      have firstRead := item first List.mem_cons_self
      cases others with
      | nil => simpa using firstRead rest restEnds
      | cons second others =>
          have otherItem : ∀ piece ∈ second :: others, ∀ rest, ends rest →
              lexemes (write piece ++ rest) = read piece ++ lexemes rest := by
            intro piece member
            exact item piece (List.mem_cons_of_mem _ member)
          have later := induction (List.cons_ne_nil _ _) otherItem
          simp only [List.map_cons] at later ⊢
          rw [List.intercalate_cons_cons, List.intercalate_cons_cons,
            List.append_assoc, List.append_assoc,
            firstRead _ (separatorEnds _), separated, later]
          simp only [List.append_assoc]

end Lexeme

end SchemaSheet
