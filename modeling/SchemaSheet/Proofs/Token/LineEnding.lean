import SchemaSheet.Proofs.Token.Reading
import SchemaSheet.Proofs.Token.Truncation
import SchemaSheet.Proofs.Token.Words

/-!
# Line endings

A text in which each line feed gets a carriage return in front of it is divided
like the text itself: its lexemes are those of the text, with carriage returns
in front of their own line feeds.  No class of characters that runs are made of
holds one of the two; quoted pieces and comments take both.
-/

namespace SchemaSheet

namespace Text

/-- The text with a carriage return in front of each line feed. -/
def withReturns : Text → Text
  | [] => []
  | char :: rest =>
      if char = '\n' then '\r' :: '\n' :: withReturns rest
      else char :: withReturns rest

@[simp] theorem withReturns_nil : withReturns [] = [] := rfl

@[simp] theorem withReturns_lineFeed (rest : Text) :
    withReturns (.of '\n' :: rest)
      = .of '\r' :: .of '\n' :: withReturns rest := rfl

theorem withReturns_cons {char : Character} (rest : Text)
    (other : char ≠ .of '\n') :
    withReturns (char :: rest) = char :: withReturns rest := by
  rw [withReturns, if_neg other]

theorem withReturns_append (text rest : Text) :
    withReturns (text ++ rest) = withReturns text ++ withReturns rest := by
  induction text with
  | nil => rfl
  | cons char text induction =>
      by_cases feed : char = .of '\n'
      · subst feed
        simp [induction]
      · simp [withReturns_cons _ feed, induction]

theorem withReturns_of_not_mem {text : Text} (absent : .of '\n' ∉ text) :
    withReturns text = text := by
  induction text with
  | nil => rfl
  | cons char text induction =>
      have other := List.ne_of_not_mem_cons absent
      have later := List.not_mem_of_not_mem_cons absent
      rw [withReturns_cons text (Ne.symm other), induction later]

theorem mem_withReturns {char : Character} {text : Text}
    (member : char ∈ text) : char ∈ withReturns text := by
  obtain ⟨before, after, rfl⟩ := List.mem_iff_append.mp member
  rw [withReturns_append, List.mem_append]
  by_cases feed : char = .of '\n'
  · subst feed
    simp
  · rw [withReturns_cons after feed]
    exact .inr List.mem_cons_self

/-- The character is part of no line break. -/
structure NoBreak (char : Character) : Prop where
  noReturn : char ≠ .of '\r'
  noFeed : char ≠ .of '\n'

theorem noBreak_of_isQuote {quote : Character}
    (isQuoteChar : isQuote quote = true) : NoBreak quote := by
  constructor
  · rintro rfl
    exact absurd isQuoteChar (by decide)
  · rintro rfl
    exact absurd isQuoteChar (by decide)

theorem noBreak_backslash : NoBreak (.of '\\') := ⟨by decide, by decide⟩

/-- A character that breaks no line begins both texts or neither. -/
theorem head?_withReturns {char : Character} (text : Text)
    (stays : NoBreak char) :
    (withReturns text).head? = some char ↔ text.head? = some char := by
  cases text with
  | nil => rfl
  | cons first rest =>
      by_cases feed : first = .of '\n'
      · subst feed
        simp [Ne.symm stays.noReturn, Ne.symm stays.noFeed]
      · rw [withReturns_cons rest feed]
        rfl

theorem getLast?_withReturns (text : Text) :
    (withReturns text).getLast? = text.getLast? := by
  rcases text.eq_nil_or_concat with rfl | ⟨front, last, rfl⟩
  · rfl
  · rw [List.concat_eq_append, withReturns_append]
    by_cases feed : last = .of '\n'
    · subst feed
      simp
    · simp [withReturns_cons [] feed]

/-- How long the first characters of a text are once they have carriage
returns. -/
def grown (text : Text) (count : Nat) : Nat :=
  (withReturns (text.take count)).length

@[simp] theorem grown_zero (text : Text) : grown text 0 = 0 := rfl

theorem grown_cons {char : Character} (rest : Text) (count : Nat)
    (other : char ≠ .of '\n') :
    grown (char :: rest) (count + 1) = grown rest count + 1 := by
  rw [grown, List.take_succ_cons, withReturns_cons _ other]
  rfl

theorem withReturns_split (text : Text) (count : Nat) :
    withReturns text
      = withReturns (text.take count) ++ withReturns (text.drop count) := by
  rw [← withReturns_append, List.take_append_drop]

theorem take_grown (text : Text) (count : Nat) :
    (withReturns text).take (grown text count)
      = withReturns (text.take count) := by
  rw [withReturns_split text count]
  exact List.take_left

theorem drop_grown (text : Text) (count : Nat) :
    (withReturns text).drop (grown text count)
      = withReturns (text.drop count) := by
  rw [withReturns_split text count]
  exact List.drop_left

theorem grown_add (text : Text) (first second : Nat) :
    grown text (first + second)
      = grown text first + grown (text.drop first) second := by
  rw [grown, List.take_add, withReturns_append, List.length_append]
  rfl

theorem grown_mono {text : Text} {first second : Nat}
    (ordered : first ≤ second) : grown text first ≤ grown text second := by
  obtain ⟨more, rfl⟩ := Nat.exists_eq_add_of_le ordered
  rw [grown_add]
  exact Nat.le_add_right _ _

theorem grown_length_append (before after : Text) :
    grown (before ++ after) before.length = (withReturns before).length := by
  rw [grown, List.take_left]

/-- The text has no carriage return, and no backslash escapes a line feed. -/
structure PlainBreaks (text : Text) : Prop where
  noReturn : .of '\r' ∉ text
  noEscape : ¬[.of '\\', .of '\n'] <:+: text

theorem PlainBreaks.of_infix {text part : Text} (breaks : PlainBreaks text)
    (inside : part <:+: text) : PlainBreaks part := by
  constructor
  · intro member
    exact breaks.noReturn (inside.mem member)
  · intro escaped
    exact breaks.noEscape (escaped.trans inside)

theorem PlainBreaks.tail {char : Character} {text : Text}
    (breaks : PlainBreaks (char :: text)) : PlainBreaks text :=
  breaks.of_infix (List.suffix_cons char text).isInfix

theorem PlainBreaks.drop {text : Text} (breaks : PlainBreaks text)
    (count : Nat) : PlainBreaks (text.drop count) :=
  breaks.of_infix (List.drop_suffix count text).isInfix

end Text

namespace Lexeme

open Text

/-- The lexeme with a carriage return in front of each line feed. -/
def withReturns (lexeme : Lexeme) : Lexeme :=
  ⟨lexeme.kind, Text.withReturns lexeme.text⟩

/-- A class of characters that end no line. -/
structure InLine (accepts : Character → Bool) : Prop where
  noReturn : accepts (.of '\r') = false
  noFeed : accepts (.of '\n') = false

theorem InLine.takeWhile_withReturns {accepts : Character → Bool}
    (inLine : InLine accepts) (text : Text) :
    (Text.withReturns text).takeWhile accepts = text.takeWhile accepts := by
  induction text with
  | nil => rfl
  | cons char rest induction =>
      by_cases feed : char = .of '\n'
      · subst feed
        simp [inLine.noReturn, inLine.noFeed]
      · rw [withReturns_cons rest feed, List.takeWhile_cons,
          List.takeWhile_cons, induction]

theorem InLine.runLength_withReturns {accepts : Character → Bool}
    (inLine : InLine accepts) (text : Text) :
    runLength accepts (Text.withReturns text) = runLength accepts text := by
  rw [runLength, inLine.takeWhile_withReturns, runLength]

theorem InLine.grown_runLength {accepts : Character → Bool}
    (inLine : InLine accepts) (text : Text) :
    grown text (runLength accepts text) = runLength accepts text := by
  have noFeed : .of '\n' ∉ text.takeWhile accepts := by
    intro feed
    have accepted := List.mem_takeWhile_imp feed
    rw [inLine.noFeed] at accepted
    cases accepted
  rw [grown, take_runLength, withReturns_of_not_mem noFeed, runLength]

theorem inLine_isInLine : InLine isInLine := ⟨rfl, rfl⟩

theorem inLine_isLineBlank : InLine isLineBlank := ⟨rfl, rfl⟩

theorem inLine_isWordChar : InLine isWordChar :=
  ⟨Starter.isWordChar_of_mem_marks (by decide),
    Starter.isWordChar_of_mem_marks (by decide)⟩

theorem inLine_isDigit : InLine isDigit :=
  ⟨isDigit_eq_false inLine_isWordChar.noReturn,
    isDigit_eq_false inLine_isWordChar.noFeed⟩

theorem beginsWord_withReturns (text : Text) :
    beginsWord (Text.withReturns text) = beginsWord text := by
  cases text with
  | nil => rfl
  | cons char rest =>
      by_cases feed : char = .of '\n'
      · subst feed
        simp [beginsWord, inLine_isWordChar.noReturn,
          inLine_isWordChar.noFeed]
      · rw [withReturns_cons rest feed]
        rfl

theorem blockCommentLength?_of_ne {char : Character} (rest : Text)
    (other : char ≠ .of '*') :
    blockCommentLength? (char :: rest)
      = (blockCommentLength? rest).map (· + 1) :=
  blockCommentLength?.eq_3 _ _ fun _ star _ => other star

theorem blockCommentLength?_withReturns (text : Text) :
    blockCommentLength? (Text.withReturns text)
      = (blockCommentLength? text).map (grown text) := by
  induction text using blockCommentLength?.induct with
  | case1 => rfl
  | case2 rest => rfl
  | case3 char rest onward induction =>
      rw [blockCommentLength?.eq_3 _ _ onward, Option.map_map]
      by_cases feed : char = .of '\n'
      · subst feed
        rw [withReturns_lineFeed, blockCommentLength?_of_ne _ (by decide),
          blockCommentLength?_of_ne _ (by decide), induction, Option.map_map,
          Option.map_map]
        rfl
      · have stillOnward : ∀ later, char = .of '*' →
            Text.withReturns rest = .of '/' :: later → False := by
          intro later star slash
          have begins : (Text.withReturns rest).head? = some (.of '/') := by
            rw [slash]
            rfl
          rw [head?_withReturns rest ⟨by decide, by decide⟩] at begins
          obtain ⟨tail, rfl⟩ := List.head?_eq_some_iff.mp begins
          exact onward tail star rfl
        rw [withReturns_cons rest feed,
          blockCommentLength?.eq_3 _ _ stillOnward, induction, Option.map_map]
        congr 1
        funext count
        exact (grown_cons rest count feed).symm

theorem quotedLength?_of_inLine {quote char : Character} {escapes : Bool}
    (rest : Text) (notQuote : char ≠ quote) (notEscape : char ≠ .of '\\') :
    quotedLength? quote escapes (char :: rest)
      = (quotedLength? quote escapes rest).map (· + 1) := by
  apply quotedLength?_plain rest notQuote
  simp [notEscape]

theorem quotedLength?_closed {quote : Character} {escapes : Bool}
    {rest : Text} (single : rest.head? ≠ some quote) :
    quotedLength? quote escapes (quote :: rest) = some 1 := by
  cases rest with
  | nil => simp [quotedLength?]
  | cons next later =>
      have other : next ≠ quote := by simpa using single
      simp [quotedLength?, other]

theorem quotedLength?_withReturns {quote : Character} {escapes : Bool}
    (isQuoteChar : isQuote quote = true) {text : Text}
    (breaks : PlainBreaks text) :
    quotedLength? quote escapes (Text.withReturns text)
      = (quotedLength? quote escapes text).map (grown text) := by
  have stays := noBreak_of_isQuote isQuoteChar
  have noFeed := stays.noFeed
  induction text using quotedLength?.induct quote escapes with
  | case1 => rfl
  | case2 =>
      have single : List.head? [] ≠ some quote := by simp
      rw [withReturns_cons [] noFeed, withReturns_nil,
        quotedLength?_closed single]
      simp [grown_cons [] 0 noFeed]
  | case3 later length found induction =>
      have inner := induction breaks.tail.tail
      rw [withReturns_cons _ noFeed, withReturns_cons _ noFeed]
      simp [quotedLength?, found, inner, grown_cons _ _ noFeed]
  | case4 later found induction =>
      have inner := induction breaks.tail.tail
      rw [withReturns_cons _ noFeed, withReturns_cons _ noFeed]
      simp [quotedLength?, found, inner, grown_cons _ _ noFeed]
  | case5 next later other =>
      have single : (next :: later).head? ≠ some quote := by simpa using other
      have stillSingle :=
        mt (head?_withReturns (next :: later) stays).mp single
      rw [withReturns_cons _ noFeed, quotedLength?_closed single,
        quotedLength?_closed stillSingle]
      simp [grown_cons _ 0 noFeed]
  | case6 char other escaped =>
      have backslash : char = .of '\\' :=
        eq_of_beq (Bool.and_eq_true_iff.mp escaped).2
      subst backslash
      rw [withReturns_cons [] (by decide), withReturns_nil]
      simp [quotedLength?, other]
  | case7 char other escaped later =>
      have backslash : char = .of '\\' :=
        eq_of_beq (Bool.and_eq_true_iff.mp escaped).2
      subst backslash
      exact absurd ⟨[], later, rfl⟩ breaks.noEscape
  | case8 char other escaped next later inLine induction =>
      have backslash : char = .of '\\' :=
        eq_of_beq (Bool.and_eq_true_iff.mp escaped).2
      subst backslash
      rw [withReturns_cons _ (by decide), withReturns_cons _ inLine,
        quotedLength?_escaped other escaped inLine,
        quotedLength?_escaped other escaped inLine,
        induction breaks.tail.tail, Option.map_map, Option.map_map]
      congr 1
      funext count
      have escape : Character.of '\\' ≠ .of '\n' := by decide
      simp [grown_cons _ _ escape, grown_cons _ _ inLine]
  | case9 char rest other plain induction =>
      have plain := Bool.eq_false_iff.mpr plain
      rw [quotedLength?_plain rest other plain, Option.map_map]
      by_cases feed : char = .of '\n'
      · subst feed
        rw [withReturns_lineFeed,
          quotedLength?_of_inLine _ (Ne.symm stays.noReturn) (by decide),
          quotedLength?_of_inLine _ (Ne.symm noFeed) (by decide),
          induction breaks.tail, Option.map_map, Option.map_map]
        rfl
      · rw [withReturns_cons rest feed, quotedLength?_plain _ other plain,
          induction breaks.tail, Option.map_map]
        congr 1
        funext count
        exact (grown_cons rest count feed).symm

/-- What is read of a text, as it is read of the text with returns. -/
def grow (text : Text) (found : Kind × Nat) : Kind × Nat :=
  (found.1, grown text found.2)

theorem quoted_withReturns {kind : Kind} {quote : Character} {escapes : Bool}
    (isQuoteChar : isQuote quote = true) {text : Text}
    (breaks : PlainBreaks text) :
    quoted kind quote escapes (Text.withReturns text)
      = grow text (quoted kind quote escapes text) := by
  unfold quoted
  rw [quotedLength?_withReturns isQuoteChar breaks]
  cases quotedLength? quote escapes text with
  | none => rfl
  | some length => rfl

theorem slash_withReturns (text : Text) :
    slash (Text.withReturns text) = grow text (slash text) := by
  cases text with
  | nil => rfl
  | cons char rest =>
      by_cases feed : char = .of '\n'
      · subst feed
        rfl
      · rw [withReturns_cons rest feed]
        by_cases star : char = .of '*'
        · subst star
          rw [slash_star, slash_star, blockCommentLength?_withReturns]
          cases blockCommentLength? rest with
          | none => rfl
          | some length =>
              exact congrArg (Prod.mk _) (grown_cons rest length feed).symm
        · rw [slash_cons_of_ne _ star, slash_cons_of_ne _ star]
          rfl

theorem drop_runLength_withReturns {accepts : Character → Bool}
    (inLine : InLine accepts) (text : Text) :
    (Text.withReturns text).drop (runLength accepts text)
      = Text.withReturns (text.drop (runLength accepts text)) := by
  rw [← drop_grown, inLine.grown_runLength]

theorem fractionLength?_of_ne {char : Character} (rest : Text)
    (other : char ≠ .of '.') : fractionLength? (char :: rest) = none := by
  rw [fractionLength?]
  intro later same
  cases same
  exact other rfl

theorem fractionLength?_withReturns (text : Text) :
    fractionLength? (Text.withReturns text)
      = (fractionLength? text).map (grown text) := by
  cases text with
  | nil => rfl
  | cons char rest =>
      by_cases feed : char = .of '\n'
      · subst feed
        rfl
      · rw [withReturns_cons rest feed]
        by_cases point : char = .of '.'
        · subst point
          have length := grown_cons rest (runLength isDigit rest) feed
          rw [inLine_isDigit.grown_runLength] at length
          rw [fractionLength?, fractionLength?]
          simp only [inLine_isDigit.runLength_withReturns,
            drop_runLength_withReturns inLine_isDigit, beginsWord_withReturns]
          split
          · rfl
          · rw [Option.map_some, length]
        · rw [fractionLength?_of_ne _ point, fractionLength?_of_ne _ point]
          rfl

theorem numeral_withReturns (text : Text) :
    numeral (Text.withReturns text) = grow text (numeral text) := by
  unfold numeral
  simp only [inLine_isDigit.runLength_withReturns,
    drop_runLength_withReturns inLine_isDigit, fractionLength?_withReturns,
    beginsWord_withReturns, inLine_isWordChar.runLength_withReturns]
  cases fractionLength? (text.drop (runLength isDigit text)) with
  | none =>
      simp only [Option.map_none]
      split
      · rw [grow, inLine_isWordChar.grown_runLength]
      · rw [grow, inLine_isDigit.grown_runLength]
  | some length =>
      rw [grow, grown_add, inLine_isDigit.grown_runLength]
      rfl

/-- The first lexeme of a text with returns is that of the text, grown. -/
theorem Starter.read_withReturns {starter : Starter} {char : Character}
    {text : Text} (described : Describes char starter)
    (noReturn : char ≠ .of '\r') (breaks : PlainBreaks text) :
    starter.read char (Text.withReturns text)
      = grow text (starter.read char text) := by
  cases starter with
  | dash =>
      have head : (Text.withReturns text).head? = some (.of '-')
          ↔ text.head? = some (.of '-') :=
        head?_withReturns text ⟨by decide, by decide⟩
      simp only [read, head, inLine_isInLine.runLength_withReturns]
      split
      · rw [grow, inLine_isInLine.grown_runLength]
      · rfl
  | slash => exact slash_withReturns text
  | hash =>
      rw [read, read, inLine_isInLine.runLength_withReturns, grow,
        inLine_isInLine.grown_runLength]
  | carriageReturn => exact absurd described noReturn
  | blank =>
      rw [read, read, inLine_isLineBlank.runLength_withReturns, grow,
        inLine_isLineBlank.grown_runLength]
  | quote kind escapes => exact quoted_withReturns described.1 breaks
  | digit => exact numeral_withReturns text
  | letter =>
      rw [read, read, inLine_isWordChar.runLength_withReturns, grow,
        inLine_isWordChar.grown_runLength]
  | alone kind => rfl

theorem lexemes_return_lineFeed (rest : Text) :
    lexemes (.of '\r' :: .of '\n' :: rest)
      = ⟨.lineBreak, [.of '\r', .of '\n']⟩ :: lexemes rest := by
  have starter : Starter.of (.of '\r') = .carriageReturn := rfl
  rw [lexemes_cons, first_eq_read, starter]
  rfl

/-- The lexemes of a text with returns are those of the text, with returns. -/
theorem lexemes_withReturns {text : Text} (breaks : PlainBreaks text) :
    lexemes (Text.withReturns text)
      = (lexemes text).map Lexeme.withReturns := by
  induction text using lexemes.induct with
  | case1 => simp [lexemes]
  | case2 char text kind length found induction =>
      have later := induction (breaks.tail.drop length)
      by_cases feed : char = .of '\n'
      · subst feed
        have alone : first (.of '\n') text = (.lineBreak, 0) := rfl
        obtain ⟨rfl, rfl⟩ := Prod.mk.inj (alone.symm.trans found)
        rw [List.drop_zero] at later
        rw [withReturns_lineFeed, lexemes_return_lineFeed, lexemes_lineFeed,
          later]
        rfl
      · have noReturn : char ≠ .of '\r' := by
          rintro rfl
          exact breaks.noReturn List.mem_cons_self
        have same : first char (Text.withReturns text)
            = (kind, grown text length) := by
          rw [first_eq_read, Starter.read_withReturns
            (Starter.describes_of char) noReturn breaks.tail,
            ← first_eq_read, found]
          rfl
        rw [withReturns_cons text feed, lexemes_cons, lexemes_cons, same,
          found, take_grown, drop_grown, later, List.map_cons, withReturns,
          withReturns_cons _ feed]

end Lexeme

namespace Text

theorem replacePair_cons_of_head? {first second char left : Character}
    {rest : Text} (apart : left = first → rest.head? ≠ some second) :
    replacePair first second char (left :: rest)
      = left :: replacePair first second char rest := by
  cases rest with
  | nil => rfl
  | cons right rest =>
      have notBoth : ¬(left = first ∧ right = second) := by
        rintro ⟨same, rfl⟩
        exact apart same rfl
      rw [replacePair, if_neg notBoth]

theorem replacePair_withReturns {first second char : Character}
    (firstStays : NoBreak first) (secondStays : NoBreak second)
    (charStays : NoBreak char) (text : Text) :
    replacePair first second char (withReturns text)
      = withReturns (replacePair first second char text) := by
  have breakFirst (rest : Text) :
      replacePair first second char (.of '\r' :: .of '\n' :: rest)
        = .of '\r' :: .of '\n' :: replacePair first second char rest := by
    rw [replacePair_cons_of_ne (Ne.symm firstStays.noReturn),
      replacePair_cons_of_ne (Ne.symm firstStays.noFeed)]
  induction text using replacePair.induct first second with
  | case1 left right rest both induction =>
      obtain ⟨rfl, rfl⟩ := both
      rw [withReturns_cons _ firstStays.noFeed,
        withReturns_cons _ secondStays.noFeed, replacePair,
        if_pos ⟨rfl, rfl⟩, replacePair, if_pos ⟨rfl, rfl⟩,
        withReturns_cons _ charStays.noFeed, induction]
  | case2 left right rest notBoth induction =>
      rw [replacePair, if_neg notBoth]
      by_cases feed : left = .of '\n'
      · subst feed
        rw [withReturns_lineFeed, breakFirst, induction, withReturns_lineFeed]
      · have apart : left = first →
            (withReturns (right :: rest)).head? ≠ some second := by
          intro same begins
          rw [head?_withReturns _ secondStays] at begins
          exact notBoth ⟨same, Option.some.inj begins⟩
        rw [withReturns_cons _ feed, replacePair_cons_of_head? apart,
          induction, withReturns_cons _ feed]
  | case3 text short =>
      cases text with
      | nil => rfl
      | cons only rest =>
          cases rest with
          | nil =>
              by_cases feed : only = .of '\n'
              · subst feed
                exact breakFirst []
              · rw [withReturns_cons [] feed]
                exact (withReturns_cons [] feed).symm
          | cons right rest => exact absurd rfl (short only right rest)

theorem unescape_withReturns {quote : Character}
    (isQuoteChar : isQuote quote = true) (body : Text) :
    unescape quote (withReturns body) = withReturns (unescape quote body) := by
  have stays := noBreak_of_isQuote isQuoteChar
  unfold unescape
  simp only [replacePair_withReturns stays stays stays,
    replacePair_withReturns noBreak_backslash stays stays]
  split
  · rfl
  · rfl

/-- The content of a quoted text keeps its line feeds, and gets the same
carriage returns. -/
theorem unquote_withReturns (text : Text) :
    unquote (withReturns text) = withReturns (unquote text) := by
  cases text with
  | nil => rfl
  | cons quote body =>
      by_cases feed : quote = .of '\n'
      · subst feed
        rfl
      · rw [withReturns_cons body feed, unquote, unquote,
          getLast?_withReturns]
        split
        · next closed =>
            obtain ⟨isQuoteChar, last⟩ := closed
            have stays := noBreak_of_isQuote isQuoteChar
            obtain ⟨front, rfl⟩ := List.getLast?_eq_some_iff.mp last
            have closing := withReturns_cons [] stays.noFeed
            rw [withReturns_append, closing, withReturns_nil,
              List.dropLast_concat, List.dropLast_concat,
              unescape_withReturns isQuoteChar]
        · exact (withReturns_cons body feed).symm

end Text

end SchemaSheet
