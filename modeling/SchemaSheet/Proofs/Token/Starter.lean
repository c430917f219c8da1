import SchemaSheet.Token.Lexeme

/-!
# How lexemes start

The first character of a text decides how its first lexeme is read.  `Starter`
names the ways, so that a proof about first lexemes has one case for each.
Marks of punctuation are lexemes by themselves.
-/

namespace SchemaSheet

namespace Lexeme

/-- The ways in which a lexeme is read. -/
inductive Starter where
  | dash
  | slash
  | hash
  | carriageReturn
  | blank
  | quote (kind : Kind) (escapes : Bool)
  | digit
  | letter
  /-- The character is a lexeme by itself. -/
  | alone (kind : Kind)
  deriving DecidableEq, Repr

namespace Starter

/-- The way in which the lexeme that begins with the character is read. -/
def of (char : Character) : Starter :=
  if char = '-' then dash
  else if char = '/' then slash
  else if char = '#' then hash
  else if char = '\r' then carriageReturn
  else if char = '\n' then alone .lineBreak
  else if isLineBlank char then blank
  else if char = '\'' then quote .quotedText true
  else if char = '"' then quote .quotedName true
  else if char = backquote then quote .quotedName false
  else if isDigit char then digit
  else if char = ',' then alone .comma
  else if char = '.' then alone .dot
  else if char = ';' then alone .semicolon
  else if char = '(' then alone .openParen
  else if char = ')' then alone .closeParen
  else if isWordChar char then letter
  else alone .operator

/-- The kind of the lexeme and its length without the first character. -/
def read (starter : Starter) (char : Character) (text : Text) : Kind × Nat :=
  match starter with
  | dash =>
      if text.head? = some (.of '-') then (.comment, runLength isInLine text)
      else (.operator, 0)
  | slash => Lexeme.slash text
  | hash => (.comment, runLength isInLine text)
  | carriageReturn =>
      (.lineBreak, if text.head? = some (.of '\n') then 1 else 0)
  | blank => (.blank, runLength isLineBlank text)
  | quote kind escapes => quoted kind char escapes text
  | digit => numeral text
  | letter => (.word, runLength isWordChar text)
  | alone kind => (kind, 0)

/-- What the way of reading says about the character. -/
def Describes (char : Character) : Starter → Prop
  | dash => char = '-'
  | slash => char = '/'
  | hash => char = '#'
  | carriageReturn => char = '\r'
  | blank => isLineBlank char = true
  | quote _ escapes =>
      isQuote char = true ∧ (escapes = false → char = backquote)
  | digit => isDigit char = true
  | letter => isWordChar char = true ∧ isDigit char = false
  | alone _ => isWordChar char = false

variable {condition : Prop} [Decidable condition] {char : Character}
  {text : Text} {found : Kind × Nat} {chosen other : Starter}

theorem read_ite {otherFound : Kind × Nat}
    (chosenRead : condition → found = chosen.read char text)
    (otherRead : ¬condition → otherFound = other.read char text) :
    (if condition then found else otherFound)
      = (if condition then chosen else other).read char text := by
  split
  · exact chosenRead ‹_›
  · exact otherRead ‹_›

/-- Marks that open comments and quoted pieces. -/
def openers : List Character := ['-', '/', '#', '*', '\'', '"', backquote]

/-- Marks with a meaning of their own, the blanks among them. -/
def marks : List Character :=
  openers ++ (",.;() \t\x0b\x0c\r\n" : Text)

theorem isWordChar_of_mem_marks (member : char ∈ marks) :
    isWordChar char = false := by
  have apart : CodeRange.apart [(0, 0x7F)] wordRanges = true := by
    decide +kernel
  have checked : ∀ mark ∈ marks,
      CodeRange.anyHolds [(0, 0x7F)] mark.code = true
        ∧ (mark.isIn Char.isAlphanum || mark == '_') = false := by
    decide +kernel
  obtain ⟨small, plain⟩ := checked char member
  rw [isWordChar, plain, CodeRange.anyHolds_of_apart apart small]
  rfl

theorem ne_of_mem_marks {mark : Character} (word : isWordChar char = true)
    (member : mark ∈ marks) : char ≠ mark := by
  rintro rfl
  rw [isWordChar_of_mem_marks member] at word
  cases word

theorem describes_alone {kind : Kind} {only : Character} (same : char = only)
    (mark : only ∈ marks) : Describes char (alone kind) := by
  rw [same]
  exact isWordChar_of_mem_marks mark

theorem describes_of (char : Character) : Describes char (of char) := by
  unfold of
  repeat' refine iteInduction (motive := Describes char) ?_ fun _ => ?_
  all_goals first
    | exact id
    | exact fun same => describes_alone same (by decide)
    | exact fun same => ⟨by rw [same]; rfl, by simp [same]⟩
    | exact fun isLetter => ⟨isLetter, by simp_all⟩
    | exact Bool.eq_false_iff.mpr ‹_›

/-- The kinds of characters that are lexemes by themselves. -/
def loneKinds : List Kind :=
  [.lineBreak, .comma, .dot, .semicolon, .openParen, .closeParen, .operator]

/-- The kind that a way of reading names is one that quotes open, or one of a
character that is a lexeme by itself. -/
def Sorted : Starter → Prop
  | quote kind _ => kind = .quotedText ∨ kind = .quotedName
  | alone kind => kind ∈ loneKinds
  | _ => True

theorem sorted_of (char : Character) : (of char).Sorted := by
  unfold of
  repeat' refine iteInduction (motive := Sorted) (fun _ => ?_) fun _ => ?_
  all_goals first
    | exact trivial
    | exact .inl rfl
    | exact .inr rfl
    | exact List.mem_of_elem_eq_true rfl

theorem isWordChar_of_isLineBlank (isBlankChar : isLineBlank char = true) :
    isWordChar char = false := by
  simp only [isLineBlank, Bool.or_eq_true, beq_iff_eq] at isBlankChar
  apply isWordChar_of_mem_marks
  rcases isBlankChar with ((rfl | rfl) | rfl) | rfl <;> decide

theorem isWordChar_of_isQuote (isQuoteChar : isQuote char = true) :
    isWordChar char = false := by
  simp only [isQuote, Bool.or_eq_true, beq_iff_eq] at isQuoteChar
  apply isWordChar_of_mem_marks
  rcases isQuoteChar with (rfl | rfl) | rfl <;> decide

/-- Only digits and letters are word characters. -/
theorem isWordChar_of_describes {starter : Starter}
    (described : Describes char starter) (notDigit : starter ≠ digit)
    (notLetter : starter ≠ letter) : isWordChar char = false := by
  cases starter with
  | digit => exact absurd rfl notDigit
  | letter => exact absurd rfl notLetter
  | dash | slash | hash | carriageReturn =>
      cases described
      exact isWordChar_of_mem_marks (by decide)
  | blank => exact isWordChar_of_isLineBlank described
  | quote kind escapes => exact isWordChar_of_isQuote described.1
  | alone kind => exact described

theorem of_eq_digit_or_letter (word : isWordChar char = true) :
    of char = digit ∨ of char = letter := by
  by_cases isDigit : of char = digit
  · exact .inl isDigit
  · by_cases isLetter : of char = letter
    · exact .inr isLetter
    · rw [isWordChar_of_describes (describes_of char) isDigit isLetter] at word
      cases word

theorem of_eq_digit (isDigitChar : isDigit char = true) :
    of char = digit := by
  rcases of_eq_digit_or_letter (isWordChar_of_isDigit isDigitChar) with
    isDigit | isLetter
  · exact isDigit
  · have described := describes_of char
    rw [isLetter] at described
    rw [described.2] at isDigitChar
    cases isDigitChar

theorem of_eq_letter (word : isWordChar char = true)
    (noDigit : isDigit char = false) : of char = letter := by
  rcases of_eq_digit_or_letter word with isDigit | isLetter
  · have described := describes_of char
    rw [isDigit] at described
    rw [described] at noDigit
    cases noDigit
  · exact isLetter

/-- How the marks of statements are read. -/
def table : List (Character × Starter) :=
  [('\'', quote .quotedText true), ('"', quote .quotedName true),
    (backquote, quote .quotedName false), (' ', blank), (',', alone .comma),
    ('.', alone .dot), ('(', alone .openParen), (')', alone .closeParen),
    ('\n', alone .lineBreak)]

theorem of_eq_of_mem {starter : Starter} (member : (char, starter) ∈ table) :
    of char = starter := by
  have checked : ∀ entry ∈ table, of entry.1 = entry.2 := by decide +kernel
  exact checked _ member

end Starter

theorem first_eq_read (char : Character) (text : Text) :
    first char text = (Starter.of char).read char text := by
  unfold first Starter.of
  repeat' refine Starter.read_ite ?_ fun _ => ?_
  all_goals first | exact fun _ => rfl | exact fun same => same ▸ rfl | rfl

theorem kind_slash (text : Text) :
    (slash text).1 = .comment ∨ (slash text).1 = .operator := by
  unfold slash
  split
  · split
    · exact .inl rfl
    · exact .inr rfl
  · exact .inr rfl

theorem kind_quoted (kind : Kind) (quote : Character) (escapes : Bool)
    (text : Text) :
    (quoted kind quote escapes text).1 = kind
      ∨ (quoted kind quote escapes text).1 = .operator := by
  unfold quoted
  split
  · exact .inl rfl
  · exact .inr rfl

theorem kind_numeral (text : Text) :
    (numeral text).1 = .number ∨ (numeral text).1 = .word := by
  unfold numeral
  simp only
  split
  · exact .inl rfl
  · split
    · exact .inr rfl
    · exact .inl rfl

theorem kind_slash_ne (text : Text) : (slash text).1 ≠ .openParen := by
  rcases kind_slash text with same | same <;> simp [same]

theorem kind_quoted_ne {kind : Kind} {quote : Character} {escapes : Bool}
    (text : Text) (other : kind ≠ .openParen) :
    (quoted kind quote escapes text).1 ≠ .openParen := by
  rcases kind_quoted kind quote escapes text with same | same
  · rw [same]
    exact other
  · simp [same]

theorem kind_numeral_ne (text : Text) : (numeral text).1 ≠ .openParen := by
  rcases kind_numeral text with same | same <;> simp [same]

theorem eq_of_first_openParen {char : Character} {text : Text}
    (opens : (first char text).1 = .openParen) : char = .of '(' := by
  revert opens
  unfold first
  repeat' refine iteInduction (motive := fun found : Kind × Nat =>
    found.1 = .openParen → char = .of '(') (fun _ => ?_) fun _ => ?_
  all_goals intro opens
  all_goals first
    | assumption
    | cases opens
    | exact absurd opens (kind_slash_ne text)
    | exact absurd opens (kind_quoted_ne text nofun)
    | exact absurd opens (kind_numeral_ne text)

theorem lexemes_cons (char : Character) (text : Text) :
    lexemes (char :: text)
      = ⟨(first char text).1, char :: text.take (first char text).2⟩
        :: lexemes (text.drop (first char text).2) := by
  rw [lexemes]

/-- Every lexeme of a text is the first one of what is left of the text, and
the lexemes behind it are what is left then. -/
theorem exists_first_of_divided {text : Text} {front later : List Lexeme}
    {lexeme : Lexeme} (divided : lexemes text = front ++ lexeme :: later) :
    ∃ char rest,
      lexeme = ⟨(first char rest).1, char :: rest.take (first char rest).2⟩
        ∧ later.flatMap Lexeme.text = rest.drop (first char rest).2 := by
  induction front generalizing text with
  | nil =>
      cases text with
      | nil => simp [lexemes] at divided
      | cons char rest =>
          rw [lexemes_cons, List.nil_append] at divided
          obtain ⟨made, behind⟩ := List.cons.inj divided
          exact ⟨char, rest, made.symm, by rw [← behind, flatMap_lexemes]⟩
  | cons other front induction =>
      cases text with
      | nil => simp [lexemes] at divided
      | cons char rest =>
          rw [lexemes_cons, List.cons_append] at divided
          exact induction (List.cons.inj divided).2

theorem exists_first_of_mem_lexemes {text : Text} {lexeme : Lexeme}
    (member : lexeme ∈ lexemes text) :
    ∃ char rest, lexeme
      = ⟨(first char rest).1, char :: rest.take (first char rest).2⟩ := by
  obtain ⟨front, later, divided⟩ := List.append_of_mem member
  obtain ⟨char, rest, made, -⟩ := exists_first_of_divided divided
  exact ⟨char, rest, made⟩

/-- A character that is a lexeme by itself is one in front of anything. -/
theorem lexemes_alone {char : Character} {kind : Kind} (rest : Text)
    (alone : Starter.of char = .alone kind) :
    lexemes (char :: rest) = ⟨kind, [char]⟩ :: lexemes rest := by
  rw [lexemes_cons, first_eq_read, alone]
  rfl

theorem lexemes_comma (rest : Text) :
    lexemes (.of ',' :: rest) = ⟨.comma, ","⟩ :: lexemes rest :=
  lexemes_alone rest (Starter.of_eq_of_mem (by simp [Starter.table]))

theorem lexemes_dot (rest : Text) :
    lexemes (.of '.' :: rest) = ⟨.dot, "."⟩ :: lexemes rest :=
  lexemes_alone rest (Starter.of_eq_of_mem (by simp [Starter.table]))

theorem lexemes_openParen (rest : Text) :
    lexemes (.of '(' :: rest) = ⟨.openParen, "("⟩ :: lexemes rest :=
  lexemes_alone rest (Starter.of_eq_of_mem (by simp [Starter.table]))

theorem lexemes_closeParen (rest : Text) :
    lexemes (.of ')' :: rest) = ⟨.closeParen, ")"⟩ :: lexemes rest :=
  lexemes_alone rest (Starter.of_eq_of_mem (by simp [Starter.table]))

theorem lexemes_lineFeed (rest : Text) :
    lexemes (.of '\n' :: rest) = ⟨.lineBreak, "\n"⟩ :: lexemes rest :=
  lexemes_alone rest (Starter.of_eq_of_mem (by simp [Starter.table]))

end Lexeme

end SchemaSheet
