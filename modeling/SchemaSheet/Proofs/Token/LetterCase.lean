import SchemaSheet.Proofs.Text.LetterCase
import SchemaSheet.Proofs.Token.Coverage
import SchemaSheet.Proofs.Token.LineEnding

/-!
# Tokens of texts that differ in case

No way of reading a lexeme asks for the case of a letter.  So the lexemes of a
text are those of the text in small letters, but for their own letters, and the
same is true of places and tokens.
-/

namespace SchemaSheet

theorem isAlpha_of_isQuote {quote : Character}
    (isQuoteChar : isQuote quote = true) :
    quote.isIn Char.isAlpha = false := by
  simp only [isQuote, Bool.or_eq_true, beq_iff_eq] at isQuoteChar
  rcases isQuoteChar with (rfl | rfl) | rfl <;> rfl

namespace Text

theorem replacePair_fold {first quote : Character}
    (isMark : first.isIn Char.isAlpha = false)
    (isQuoteMark : quote.isIn Char.isAlpha = false) (text : Text) :
    replacePair first quote quote (fold text)
      = fold (replacePair first quote quote text) := by
  have stays : first.fold = first := (Character.fold_eq_iff isMark).mpr rfl
  have quoteStays : quote.fold = quote :=
    (Character.fold_eq_iff isQuoteMark).mpr rfl
  induction text using replacePair.induct first quote with
  | case1 left right rest both induction =>
      obtain ⟨rfl, rfl⟩ := both
      rw [fold_cons, fold_cons, stays, quoteStays, replacePair,
        if_pos ⟨rfl, rfl⟩, replacePair, if_pos ⟨rfl, rfl⟩, fold_cons,
        quoteStays, induction]
  | case2 left right rest apart induction =>
      have stillApart : ¬(left.fold = first ∧ right.fold = quote) := by
        rwa [Character.fold_eq_iff isMark, Character.fold_eq_iff isQuoteMark]
      rw [fold_cons, fold_cons, replacePair, if_neg stillApart, ← fold_cons,
        induction, replacePair, if_neg apart, fold_cons]
  | case3 rest short =>
      cases rest with
      | nil => rfl
      | cons left rest =>
          cases rest with
          | nil => rfl
          | cons right rest => exact absurd rfl (short left right rest)

theorem unescape_fold {quote : Character}
    (isMark : quote.isIn Char.isAlpha = false) (body : Text) :
    unescape quote (fold body) = fold (unescape quote body) := by
  rw [unescape, unescape, replacePair_fold isMark isMark]
  split
  · rfl
  · exact replacePair_fold rfl isMark _

theorem getLast?_fold_eq_iff {text : Text} {mark : Character}
    (isMark : mark.isIn Char.isAlpha = false) :
    (fold text).getLast? = some mark ↔ text.getLast? = some mark := by
  rw [fold, List.getLast?_map, Option.map_eq_some_iff]
  simp [Character.fold_eq_iff isMark]

theorem unquote_fold (text : Text) :
    unquote (fold text) = fold (unquote text) := by
  cases text with
  | nil => rfl
  | cons quote body =>
      have sameTest : isQuote quote.fold = isQuote quote :=
        Character.forall_fold
          (P := fun char folded => isQuote folded = isQuote char)
          (fun _ => rfl) (by decide +kernel) quote
      rw [fold_cons, unquote, unquote, sameTest]
      by_cases isQuoteChar : isQuote quote = true
      · have isMark := isAlpha_of_isQuote isQuoteChar
        have stays : quote.fold = quote :=
          (Character.fold_eq_iff isMark).mpr rfl
        simp only [stays, getLast?_fold_eq_iff isMark]
        split
        · rw [← unescape_fold isMark, fold, fold, List.map_dropLast]
        · rw [fold_cons, stays]
      · have noQuote : ∀ body : Prop, ¬(isQuote quote = true ∧ body) :=
          fun _ both => isQuoteChar both.1
        rw [if_neg (noQuote _), if_neg (noQuote _), fold_cons]

end Text

namespace Lexeme

open Text

/-- The lexeme in small letters. -/
def fold (lexeme : Lexeme) : Lexeme := ⟨lexeme.kind, lexeme.text.fold⟩

/-- A class of characters that holds a letter in both cases or in none. -/
def Caseless (accepts : Character → Bool) : Prop :=
  ∀ char : Character, accepts char.fold = accepts char

theorem Caseless.of_checked {accepts : Character → Bool}
    (checked : ∀ code < 0x80, accepts (.of (Char.ofNat code).toLower)
      = accepts (.of (Char.ofNat code))) : Caseless accepts :=
  Character.forall_fold
    (P := fun char folded => accepts folded = accepts char) (fun _ => rfl)
    checked

theorem caseless_isInLine : Caseless isInLine :=
  .of_checked (by decide +kernel)

theorem caseless_isLineBlank : Caseless isLineBlank :=
  .of_checked (by decide +kernel)

theorem caseless_eq_lineFeed : Caseless (· == .of '\n') :=
  .of_checked (by decide +kernel)

theorem caseless_ne_lineFeed : Caseless (· != .of '\n') :=
  .of_checked (by decide +kernel)

theorem caseless_isWordChar : Caseless isWordChar := Character.isWordChar_fold

theorem caseless_isDigit : Caseless isDigit := Character.isDigit_fold

theorem Caseless.runLength_fold {accepts : Character → Bool}
    (caseless : Caseless accepts) (text : Text) :
    runLength accepts text.fold = runLength accepts text := by
  have sameClass : accepts ∘ Character.fold = accepts := funext caseless
  rw [runLength, Text.fold, List.takeWhile_map, List.length_map, sameClass,
    runLength]

theorem beginsWord_fold (text : Text) :
    beginsWord text.fold = beginsWord text := by
  cases text with
  | nil => rfl
  | cons char rest => exact char.isWordChar_fold

theorem blockCommentLength?_fold (text : Text) :
    blockCommentLength? text.fold = blockCommentLength? text := by
  induction text using blockCommentLength?.induct with
  | case1 => rfl
  | case2 rest => rfl
  | case3 char rest onward induction =>
      have stillOnward : ∀ later, char.fold = .of '*' →
          Text.fold rest = .of '/' :: later → False := by
        intro later star slash
        have begins : (Text.fold rest).head? = some (.of '/') := by
          rw [slash]
          rfl
        rw [head?_fold_eq_iff rfl] at begins
        obtain ⟨tail, rfl⟩ := List.head?_eq_some_iff.mp begins
        exact onward tail ((Character.fold_eq_iff rfl).mp star) rfl
      rw [fold_cons, blockCommentLength?.eq_3 _ _ stillOnward,
        blockCommentLength?.eq_3 _ _ onward, induction]

theorem quotedLength?_fold {quote : Character} {escapes : Bool}
    (isQuoteChar : isQuote quote = true) (text : Text) :
    quotedLength? quote escapes text.fold
      = quotedLength? quote escapes text := by
  have isMark := isAlpha_of_isQuote isQuoteChar
  have stays : quote.fold = quote := (Character.fold_eq_iff isMark).mpr rfl
  have backslash : Character.fold (.of '\\') = .of '\\' := rfl
  induction text using quotedLength?.induct quote escapes with
  | case1 => rfl
  | case2 => rw [fold_cons, stays, fold_nil]
  | case3 later length found induction =>
      rw [fold_cons, fold_cons, stays]
      simp [quotedLength?, found, induction]
  | case4 later found induction =>
      rw [fold_cons, fold_cons, stays]
      simp [quotedLength?, found, induction]
  | case5 next later other =>
      have single : (next :: later).head? ≠ some quote := by simpa using other
      have stillSingle := mt (head?_fold_eq_iff isMark).mp single
      rw [fold_cons, stays, quotedLength?_closed single,
        quotedLength?_closed stillSingle]
  | case6 char other escaped =>
      rw [eq_of_beq (Bool.and_eq_true_iff.mp escaped).2]
      rfl
  | case7 char other escaped later =>
      obtain rfl : char = .of '\\' :=
        eq_of_beq (Bool.and_eq_true_iff.mp escaped).2
      have feed : Character.fold (.of '\n') = .of '\n' := rfl
      have escapes : escapes = true := (Bool.and_eq_true_iff.mp escaped).1
      rw [fold_cons, fold_cons, backslash, feed]
      simp [quotedLength?, other, escapes]
  | case8 char other escaped next later inLine induction =>
      obtain rfl : char = .of '\\' :=
        eq_of_beq (Bool.and_eq_true_iff.mp escaped).2
      have stillInLine := mt (Character.fold_eq_iff rfl).mp inLine
      rw [fold_cons, fold_cons, backslash,
        quotedLength?_escaped other escaped stillInLine,
        quotedLength?_escaped other escaped inLine, induction]
  | case9 char rest other plain induction =>
      have stillOther := mt (Character.fold_eq_iff isMark).mp other
      have plain := Bool.eq_false_iff.mpr plain
      have sameEscape : char.fold = .of '\\' ↔ char = .of '\\' :=
        Character.fold_eq_iff rfl
      have stillPlain : (escapes && char.fold == .of '\\') = false := by
        simpa [sameEscape] using plain
      rw [fold_cons, quotedLength?_plain _ stillOther stillPlain,
        quotedLength?_plain _ other plain, induction]

theorem quoted_fold {kind : Kind} {quote : Character} {escapes : Bool}
    (isQuoteChar : isQuote quote = true) (text : Text) :
    quoted kind quote escapes text.fold = quoted kind quote escapes text := by
  rw [quoted, quotedLength?_fold isQuoteChar, quoted]

theorem slash_fold (text : Text) : slash text.fold = slash text := by
  cases text with
  | nil => rfl
  | cons char rest =>
      rw [fold_cons]
      by_cases star : char = .of '*'
      · subst star
        have stays : Character.fold (.of '*') = .of '*' := rfl
        rw [stays, slash_star, slash_star, blockCommentLength?_fold]
      · have other := mt (Character.fold_eq_iff rfl).mp star
        rw [slash_cons_of_ne _ other, slash_cons_of_ne _ star]

theorem fractionLength?_fold (text : Text) :
    fractionLength? text.fold = fractionLength? text := by
  cases text with
  | nil => rfl
  | cons char rest =>
      rw [fold_cons]
      by_cases point : char = .of '.'
      · subst point
        have stays : Character.fold (.of '.') = .of '.' := rfl
        simp only [stays, fractionLength?, caseless_isDigit.runLength_fold,
          ← fold_drop, beginsWord_fold]
      · have other := mt (Character.fold_eq_iff rfl).mp point
        rw [fractionLength?_of_ne _ other, fractionLength?_of_ne _ point]

theorem numeral_fold (text : Text) : numeral text.fold = numeral text := by
  simp only [numeral, caseless_isDigit.runLength_fold, ← fold_drop,
    fractionLength?_fold, beginsWord_fold, caseless_isWordChar.runLength_fold]

/-- All letters begin words. -/
theorem Starter.of_fold (char : Character) :
    Starter.of char.fold = Starter.of char :=
  Character.eq_fold (fun _ isLetter => of_eq_letter
    (Character.isWordChar_of_isAlpha isLetter)
    (Character.isDigit_of_isAlpha isLetter)) char

theorem Starter.read_fold {starter : Starter} {char : Character}
    (described : starter.Describes char) (text : Text) :
    starter.read char.fold text.fold = starter.read char text := by
  cases starter with
  | dash =>
      have sameHead : text.fold.head? = some (.of '-')
          ↔ text.head? = some (.of '-') := head?_fold_eq_iff rfl
      simp only [read, sameHead, caseless_isInLine.runLength_fold]
  | slash => exact slash_fold text
  | hash => rw [read, read, caseless_isInLine.runLength_fold]
  | carriageReturn =>
      have sameHead : text.fold.head? = some (.of '\n')
          ↔ text.head? = some (.of '\n') := head?_fold_eq_iff rfl
      simp only [read, sameHead]
  | blank => rw [read, read, caseless_isLineBlank.runLength_fold]
  | quote kind escapes =>
      have stays : char.fold = char :=
        (Character.fold_eq_iff (isAlpha_of_isQuote described.1)).mpr rfl
      rw [read, read, stays, quoted_fold described.1]
  | digit => exact numeral_fold text
  | letter => rw [read, read, caseless_isWordChar.runLength_fold]
  | alone kind => rfl

theorem first_fold (char : Character) (text : Text) :
    first char.fold text.fold = first char text := by
  rw [first_eq_read, first_eq_read, Starter.of_fold,
    Starter.read_fold (Starter.describes_of char)]

theorem lexemes_fold (text : Text) :
    lexemes text.fold = (lexemes text).map fold := by
  induction text using lexemes.induct with
  | case1 => simp [lexemes]
  | case2 char text kind length found induction =>
      rw [fold_cons, lexemes_cons, lexemes_cons, first_fold, found,
        ← fold_take, ← fold_drop, induction]
      rfl

end Lexeme

namespace Place

theorem count_lineFeed_fold (text : Text) :
    text.fold.count (.of '\n') = text.count (.of '\n') := by
  have sameTest : (· == .of '\n') ∘ Character.fold = (· == .of '\n') :=
    funext Lexeme.caseless_eq_lineFeed
  rw [List.count_eq_countP, List.count_eq_countP, Text.fold, List.countP_map,
    sameTest]

theorem columnAfter_fold (text : Text) :
    columnAfter text.fold = columnAfter text := by
  have sameLength := Lexeme.caseless_ne_lineFeed.runLength_fold text.reverse
  rw [Text.fold, List.map_reverse] at sameLength
  exact congrArg (· + 1) sameLength

theorem after_fold (place : Place) (lexeme : Lexeme) :
    place.after lexeme.fold = place.after lexeme := by
  simp only [after, Lexeme.fold, count_lineFeed_fold, columnAfter_fold,
    Text.length_fold]

end Place

namespace Token

/-- The token in small letters. -/
def fold (token : Token) : Token := ⟨token.kind, token.text.fold, token.place⟩

theorem placed_fold (place : Place) (lexemes : List Lexeme) :
    placed place (lexemes.map Lexeme.fold)
      = (placed place lexemes).map fold := by
  induction lexemes generalizing place with
  | nil => rfl
  | cons lexeme rest induction =>
      rw [List.map_cons, placed, placed, Place.after_fold, induction]
      rfl

theorem content_fold (token : Token) :
    token.fold.content = token.content.fold :=
  Text.unquote_fold token.text

/-- The tokens of a text in small letters are those of the text, in small
letters. -/
theorem tokenize_fold (keepBreaks : Bool) (text : Text) :
    tokenize keepBreaks text.fold = (tokenize keepBreaks text).map fold := by
  rw [tokenize_eq, tokenize_eq, Lexeme.lexemes_fold, placed_fold,
    List.filter_map]
  rfl

end Token

end SchemaSheet
