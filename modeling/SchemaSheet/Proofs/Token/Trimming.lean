import Mathlib.Data.List.TakeWhile
import SchemaSheet.Proofs.Token.Truncation
import SchemaSheet.Text.Blank
import SchemaSheet.Token.Stream

/-!
# Lexemes of a trimmed text

The blanks around a text are no part of a name and of no word, so a text and
the same text without them have the same signs: lexemes that are neither blank
nor a comment, but for operators at either end.
-/

namespace SchemaSheet

namespace Text

theorem trimStart_eq (text : Text) :
    trimStart text = trim text
      ++ ((trimStart text).reverse.takeWhile isBlank).reverse := by
  rw [trim, trimEnd, ← List.reverse_append,
    List.takeWhile_append_dropWhile, List.reverse_reverse]

theorem head?_trimStart (text : Text) :
    ∀ char ∈ (trimStart text).head?, isBlank char = false := by
  intro char first
  have head := List.head?_dropWhile_not isBlank text
  rw [trimStart] at first
  simpa [Option.mem_def.mp first] using head

theorem head?_trim (text : Text) :
    ∀ char ∈ (trim text).head?, isBlank char = false := by
  intro char first
  apply head?_trimStart text
  rw [trimStart_eq, List.head?_append, Option.mem_def.mp first]
  rfl

theorem getLast?_trim (text : Text) :
    ∀ char ∈ (trim text).getLast?, isBlank char = false := by
  intro char last
  have head := List.head?_dropWhile_not isBlank (trimStart text).reverse
  rw [trim, trimEnd, List.getLast?_reverse] at last
  simpa [Option.mem_def.mp last] using head

end Text

namespace Lexeme

theorem isWordChar_of_isBlank {char : Character}
    (isBlankChar : isBlank char = true) : isWordChar char = false := by
  have apart : CodeRange.apart blankRanges wordRanges = true := by
    decide +kernel
  have plain : (char.isIn Char.isAlphanum || char == '_') = false :=
    forall_isBlank
      (P := fun char => (char.isIn Char.isAlphanum || char == '_') = false)
      (by decide +kernel) isBlankChar
  rw [isWordChar, plain, CodeRange.anyHolds_of_apart apart isBlankChar]
  rfl

theorem ne_of_isBlank {char mark : Character}
    (isBlankChar : isBlank char = true) (notBlank : isBlank mark = false) :
    char ≠ mark := by
  intro same
  rw [same, notBlank] at isBlankChar
  cases isBlankChar

theorem Starter.of_isBlank {char : Character}
    (isBlankChar : isBlank char = true) :
    Starter.of char = .carriageReturn ∧ char = .of '\r'
      ∨ Starter.of char = .blank ∧ isLineBlank char = true
      ∨ Starter.of char = .alone .lineBreak
      ∨ Starter.of char = .alone .operator := by
  have noWord := isWordChar_of_isBlank isBlankChar
  have noDigit := isDigit_eq_false noWord
  have noMark : ∀ mark, isBlank mark = false → char ≠ mark :=
    fun mark => ne_of_isBlank isBlankChar
  by_cases carriage : char = '\r'
  · rw [carriage]
    exact .inl ⟨rfl, rfl⟩
  by_cases feed : char = '\n'
  · rw [feed]
    exact .inr (.inr (.inl rfl))
  cases line : isLineBlank char with
  | true => simp (disch := decide) [of, noMark, carriage, feed, line]
  | false =>
      simp (disch := decide) [of, noMark, carriage, feed, line, noDigit, noWord]

theorem isBlank_of_mem_openers {char : Character}
    (member : char ∈ Starter.openers) : isBlank char = false := by
  have checked : ∀ mark ∈ Starter.openers, isBlank mark = false := by
    decide
  exact checked char member

theorem isBlank_of_isLineBlank {char : Character}
    (isBlankChar : isLineBlank char = true) : isBlank char = true := by
  simp only [isLineBlank, Bool.or_eq_true, beq_iff_eq] at isBlankChar
  rcases isBlankChar with ((rfl | rfl) | rfl) | rfl <;> decide

/-- The lexeme is neither blank nor a line break nor a comment. -/
def isSign (lexeme : Lexeme) : Bool :=
  !lexeme.kind.isSkipped && lexeme.kind != .lineBreak

end Lexeme

/-- The lexemes of a text that are neither blank nor comments. -/
def signs (text : Text) : List Lexeme :=
  (lexemes text).filter Lexeme.isSign

namespace Lexeme

/-- Signs that no header has. -/
def Idle (signs : List Lexeme) : Prop :=
  ∀ sign ∈ signs, sign.kind = .operator

theorem signs_cons (char : Character) (text : Text) :
    signs (char :: text)
      = [⟨(first char text).1, char :: text.take (first char text).2⟩].filter
          isSign ++ signs (text.drop (first char text).2) := by
  rw [signs, lexemes_cons, ← List.singleton_append, List.filter_append]
  rfl

/-- The kinds of lexemes that blanks make. -/
def IsBlankKind (kind : Kind) : Prop :=
  kind = .blank ∨ kind = .lineBreak ∨ kind = .operator

theorem idle_of_isBlankKind {kind : Kind} (text : Text)
    (isBlankKind : IsBlankKind kind) :
    Idle (([⟨kind, text⟩] : List Lexeme).filter isSign) := by
  intro sign member
  obtain ⟨same, isSign⟩ := List.mem_filter.mp member
  rw [List.mem_singleton.mp same] at isSign ⊢
  rcases isBlankKind with rfl | rfl | rfl
  · cases isSign
  · cases isSign
  · rfl

theorem Idle.append {first second : List Lexeme} (front : Idle first)
    (back : Idle second) : Idle (first ++ second) := by
  intro lexeme member
  rcases List.mem_append.mp member with inFront | inBack
  · exact front lexeme inFront
  · exact back lexeme inBack

theorem head?_any_of_isBlank {accepts : Character → Bool} {rest : Text}
    (ends : rest.head?.any isBlank = false)
    (areBlank : ∀ char, accepts char = true → isBlank char = true) :
    rest.head?.any accepts = false := by
  cases rest with
  | nil => rfl
  | cons char rest =>
      cases accepted : accepts char with
      | false => simpa using accepted
      | true => simp [areBlank char accepted] at ends

theorem first_of_isBlank {char : Character} (blanks : Text) {rest : Text}
    (isBlankChar : isBlank char = true)
    (ends : rest.head?.any isBlank = false) :
    IsBlankKind (first char (blanks ++ rest)).1
      ∧ (first char (blanks ++ rest)).2 ≤ blanks.length := by
  rw [first_eq_read]
  rcases Starter.of_isBlank isBlankChar with
    ⟨starter, -⟩ | ⟨starter, -⟩ | starter | starter
  · rw [starter]
    refine ⟨.inr (.inl rfl), ?_⟩
    simp only [Starter.read]
    split
    case _ second =>
      cases blanks with
      | nil =>
          rw [List.nil_append] at second
          have blank : isBlank '\n' = true := by decide
          simp [second, blank] at ends
      | cons next blanks => simp
    case _ => exact Nat.zero_le _
  · rw [starter]
    refine ⟨.inl rfl, ?_⟩
    exact runLength_append_le blanks
      (head?_any_of_isBlank ends fun _ => isBlank_of_isLineBlank)
  · rw [starter]
    exact ⟨.inr (.inl rfl), Nat.zero_le _⟩
  · rw [starter]
    exact ⟨.inr (.inr rfl), Nat.zero_le _⟩

/-- Blanks in front of a text add nothing but idle signs. -/
theorem signs_blanks_append {blanks rest : Text}
    (allBlank : ∀ char ∈ blanks, isBlank char = true)
    (ends : rest.head?.any isBlank = false) :
    ∃ idle, Idle idle ∧ signs (blanks ++ rest) = idle ++ signs rest := by
  induction size : blanks.length using Nat.strongRecOn generalizing blanks with
  | ind bound induction =>
      cases blanks with
      | nil => exact ⟨[], nofun, rfl⟩
      | cons char blanks =>
          have isBlankChar := allBlank char List.mem_cons_self
          obtain ⟨isBlankKind, inside⟩ :=
            first_of_isBlank blanks isBlankChar ends
          let left := blanks.drop (first char (blanks ++ rest)).2
          have leftBlank : ∀ other ∈ left, isBlank other = true := by
            intro other member
            apply allBlank
            exact List.mem_cons_of_mem _ (List.mem_of_mem_drop member)
          have shorter : left.length < bound := by
            simp only [left, List.length_drop, ← size, List.length_cons]
            omega
          obtain ⟨idle, isIdle, later⟩ :=
            induction left.length shorter leftBlank rfl
          have divided := signs_cons char (blanks ++ rest)
          rw [List.drop_append_of_le_length inside, later,
            ← List.append_assoc] at divided
          exact ⟨_, .append (idle_of_isBlankKind _ isBlankKind) isIdle, divided⟩

/-- The last character that a lexeme has behind its first one, where `length`
of them are read. -/
def LastOf (text : Text) (length : Nat) (accepts : Character → Prop) : Prop :=
  ∃ count char, length = count + 1 ∧ text[count]? = some char ∧ accepts char

theorem lastOf_runLength {accepts : Character → Bool} {text : Text}
    (positive : 0 < runLength accepts text) :
    LastOf text (runLength accepts text) fun char => accepts char = true := by
  induction text with
  | nil => cases positive
  | cons char text induction =>
      cases accepted : accepts char with
      | false => simp [runLength, accepted] at positive
      | true =>
          have length : runLength accepts (char :: text)
              = runLength accepts text + 1 := by
            simp [runLength, accepted]
          rw [length]
          by_cases last : runLength accepts text = 0
          · exact ⟨0, char, by rw [last], rfl, accepted⟩
          · obtain ⟨count, found, same, present, inside⟩ :=
              induction (Nat.pos_of_ne_zero last)
            exact ⟨count + 1, found, by rw [same], present, inside⟩

theorem lastOf_blockComment {text : Text} {length : Nat}
    (closed : blockCommentLength? text = some length) :
    LastOf text length (· = .of '/') := by
  induction text using blockCommentLength?.induct generalizing length with
  | case1 => cases closed
  | case2 rest =>
      cases closed
      exact ⟨1, _, rfl, rfl, rfl⟩
  | case3 char rest onward induction =>
      rw [blockCommentLength?.eq_3 _ _ onward] at closed
      obtain ⟨inner, innerClosed, rfl⟩ := Option.map_eq_some_iff.mp closed
      obtain ⟨count, last, rfl, present, same⟩ := induction innerClosed
      exact ⟨count + 1, last, rfl, present, same⟩

theorem lastOf_quoted {quote : Character} {escapes : Bool} {text : Text}
    {length : Nat} (closed : quotedLength? quote escapes text = some length) :
    LastOf text length (· = quote) := by
  induction text using quotedLength?.induct quote escapes
    generalizing length with
  | case1 => cases closed
  | case2 =>
      simp only [quotedLength?, if_true, Option.some.injEq] at closed
      exact ⟨0, quote, closed.symm, rfl, rfl⟩
  | case3 later inner found induction =>
      simp only [quotedLength?, found, if_true, Option.some.injEq] at closed
      obtain ⟨count, last, rfl, present, same⟩ := induction found
      exact ⟨count + 2, last, closed.symm, present, same⟩
  | case4 later found induction =>
      simp only [quotedLength?, found, if_true, Option.some.injEq] at closed
      exact ⟨0, quote, closed.symm, rfl, rfl⟩
  | case5 next later other =>
      simp only [quotedLength?, other, if_true, if_false,
        Option.some.injEq] at closed
      exact ⟨0, quote, closed.symm, rfl, rfl⟩
  | case6 char other escaped =>
      simp [quotedLength?, other, escaped] at closed
  | case7 char other escaped later =>
      simp [quotedLength?, other, escaped] at closed
  | case8 char other escaped next later inLine induction =>
      rw [quotedLength?_escaped other escaped inLine] at closed
      obtain ⟨inner, innerClosed, rfl⟩ := Option.map_eq_some_iff.mp closed
      obtain ⟨count, last, rfl, present, same⟩ := induction innerClosed
      exact ⟨count + 2, last, rfl, present, same⟩
  | case9 char rest other plain induction =>
      rw [quotedLength?_plain rest other (Bool.eq_false_iff.mpr plain)]
        at closed
      obtain ⟨inner, innerClosed, rfl⟩ := Option.map_eq_some_iff.mp closed
      obtain ⟨count, last, rfl, present, same⟩ := induction innerClosed
      exact ⟨count + 1, last, rfl, present, same⟩

theorem lastOf_fraction {text : Text} {length : Nat}
    (found : fractionLength? text = some length) :
    LastOf text length fun char => isDigit char = true := by
  obtain ⟨rest, rfl, positive, -, rfl⟩ := exists_of_fractionLength? found
  obtain ⟨count, last, same, present, digit⟩ := lastOf_runLength positive
  exact ⟨count + 1, last, by rw [same], present, digit⟩

theorem lastOf_numeral {text : Text} (positive : 0 < (numeral text).2) :
    LastOf text (numeral text).2 fun char => isWordChar char = true := by
  unfold numeral at positive ⊢
  simp only at positive ⊢
  cases point : fractionLength? (text.drop (runLength isDigit text)) with
  | some length =>
      obtain ⟨count, last, rfl, present, digit⟩ := lastOf_fraction point
      rw [List.getElem?_drop] at present
      exact ⟨_, last, rfl, present, isWordChar_of_isDigit digit⟩
  | none =>
      simp only [point] at positive
      cases isWord : beginsWord (text.drop (runLength isDigit text)) with
      | true =>
          simp only [isWord, if_true] at positive ⊢
          exact lastOf_runLength positive
      | false =>
          simp only [isWord, Bool.false_eq_true, if_false] at positive ⊢
          obtain ⟨count, last, same, present, digit⟩ :=
            lastOf_runLength positive
          exact ⟨count, last, same, present, isWordChar_of_isDigit digit⟩

/-- What the last character of a lexeme is like that is read in this way, if it
stands behind the first one. -/
def Starter.Closes (starter : Starter) (char last : Character) : Prop :=
  match starter with
  | dash | hash => isInLine last = true
  | slash => last = '/'
  | carriageReturn => last = '\n'
  | blank => isLineBlank last = true
  | quote _ _ => last = char
  | digit | letter => isWordChar last = true
  | alone _ => False

theorem Starter.lastOf_read (starter : Starter) (char : Character)
    (text : Text) :
    (starter.read char text).2 = 0
      ∨ LastOf text (starter.read char text).2 (starter.Closes char) := by
  have run (accepts : Character → Bool) : runLength accepts text = 0
      ∨ LastOf text (runLength accepts text) (accepts · = true) := by
    rcases Nat.eq_zero_or_pos (runLength accepts text) with none | positive
    · exact .inl none
    · exact .inr (lastOf_runLength positive)
  cases starter with
  | dash =>
      rw [read]
      split
      · exact run isInLine
      · exact .inl rfl
  | slash =>
      rw [read, Lexeme.slash.eq_def]
      split
      case _ rest =>
        split
        case _ length closed =>
          obtain ⟨count, last, rfl, present, same⟩ :=
            lastOf_blockComment closed
          exact .inr ⟨count + 1, last, rfl, present, same⟩
        case _ => exact .inl rfl
      case _ => exact .inl rfl
  | hash => exact run isInLine
  | carriageReturn =>
      rw [read]
      split
      case _ follows =>
        rw [List.head?_eq_getElem?] at follows
        exact .inr ⟨0, _, rfl, follows, rfl⟩
      case _ => exact .inl rfl
  | blank => exact run isLineBlank
  | quote kind escapes =>
      rw [read, quoted]
      split
      case _ length closed => exact .inr (lastOf_quoted closed)
      case _ => exact .inl rfl
  | digit =>
      rcases Nat.eq_zero_or_pos (numeral text).2 with none | positive
      · exact .inl none
      · exact .inr (lastOf_numeral positive)
  | letter => exact run isWordChar
  | alone kind => exact .inl rfl

/-- A lexeme that goes on behind a text has its last character there. -/
theorem LastOf.of_lt {body trail : Text} {length : Nat}
    {accepts : Character → Prop}
    (last : LastOf (body ++ trail) length accepts)
    (beyond : body.length < length) : ∃ char ∈ trail, accepts char := by
  obtain ⟨count, char, rfl, present, accepted⟩ := last
  rw [List.getElem?_append_right (by omega)] at present
  exact ⟨char, List.mem_of_getElem? present, accepted⟩

theorem runLength_of_lt {accepts : Character → Bool} {body trail : Text}
    (beyond : body.length < runLength accepts (body ++ trail)) :
    runLength accepts body = body.length := by
  have cut := runLength_take accepts (body ++ trail) body.length
  rw [List.take_left] at cut
  omega

theorem forall_of_runLength_eq {accepts : Character → Bool} {text : Text}
    (all : runLength accepts text = text.length) :
    ∀ char ∈ text, accepts char = true := by
  have whole : text.takeWhile accepts = text :=
    (List.takeWhile_prefix accepts).eq_of_length all
  rw [← List.all_eq_true, ← whole]
  exact List.all_takeWhile

/-- No blank is the last character of a quoted piece or of a word. -/
theorem isBlank_of_isWordChar {char : Character}
    (word : isWordChar char = true) : isBlank char = false := by
  cases blank : isBlank char with
  | false => rfl
  | true =>
      rw [isWordChar_of_isBlank blank] at word
      cases word

theorem isBlank_of_isQuote {char : Character}
    (isQuoteChar : isQuote char = true) : isBlank char = false := by
  simp only [isQuote, Bool.or_eq_true, beq_iff_eq] at isQuoteChar
  apply isBlank_of_mem_openers
  rcases isQuoteChar with (rfl | rfl) | rfl <;> decide

/-- Only a comment goes on through blanks behind a text that is not blank. -/
theorem first_of_lt {char : Character} {body trail : Text}
    (allBlank : ∀ other ∈ trail, isBlank other = true)
    (proper : ∃ other ∈ char :: body, isBlank other = false)
    (beyond : body.length < (first char (body ++ trail)).2) :
    (first char (body ++ trail)).1 = .comment
      ∧ first char body = (.comment, body.length) := by
  have described := Starter.describes_of char
  rw [first_eq_read] at beyond ⊢
  rw [first_eq_read]
  have closing : ∃ last ∈ trail, (Starter.of char).Closes char last := by
    rcases (Starter.of char).lastOf_read char (body ++ trail) with none | last
    · omega
    · exact last.of_lt beyond
  obtain ⟨last, member, closes⟩ := closing
  have blank := allBlank last member
  cases starter : Starter.of char with
  | dash =>
      rw [starter] at beyond
      by_cases second : (body ++ trail).head? = some (.of '-')
      · have here : body.head? = some (.of '-') := by
          cases body with
          | nil =>
              have blank := allBlank _ (List.mem_of_mem_head? second)
              rw [isBlank_of_mem_openers (by decide)] at blank
              cases blank
          | cons next body => exact second
        simp only [Starter.read, second, here, if_true] at beyond ⊢
        exact ⟨trivial, by rw [runLength_of_lt beyond]⟩
      · rw [Starter.read, if_neg second] at beyond
        cases beyond
  | slash =>
      rw [starter] at closes
      obtain rfl : last = .of '/' := closes
      rw [isBlank_of_mem_openers (by decide)] at blank
      cases blank
  | hash =>
      rw [starter] at beyond
      have length := runLength_of_lt beyond
      exact ⟨rfl, by rw [Starter.read, length]⟩
  | carriageReturn =>
      rw [starter] at beyond described
      have short :
          (Starter.carriageReturn.read char (body ++ trail)).2 ≤ 1 := by
        simp only [Starter.read]
        split <;> omega
      have empty : body = [] := List.length_eq_zero_iff.mp (by omega)
      obtain ⟨other, member, noBlank⟩ := proper
      rw [empty, List.mem_singleton] at member
      rw [member, described] at noBlank
      exact absurd noBlank (by decide)
  | blank =>
      rw [starter] at beyond described
      have lineBlank := forall_of_runLength_eq (runLength_of_lt beyond)
      obtain ⟨other, member, noBlank⟩ := proper
      have isLineBlank : Lexeme.isLineBlank other = true := by
        rcases List.mem_cons.mp member with same | inside
        · rw [same]
          exact described
        · exact lineBlank other inside
      rw [isBlank_of_isLineBlank isLineBlank] at noBlank
      cases noBlank
  | quote kind escapes =>
      rw [starter] at closes described
      obtain rfl : last = char := closes
      rw [isBlank_of_isQuote described.1] at blank
      cases blank
  | digit | letter =>
      rw [starter] at closes
      rw [isBlank_of_isWordChar closes] at blank
      cases blank
  | alone kind =>
      rw [starter] at closes
      cases closes

theorem beginsWord_of_allBlank {trail : Text}
    (allBlank : ∀ other ∈ trail, isBlank other = true) :
    beginsWord trail = false := by
  cases trail with
  | nil => rfl
  | cons char trail =>
      have blank := allBlank char List.mem_cons_self
      simpa [beginsWord] using isWordChar_of_isBlank blank

@[simp] theorem signs_nil : signs [] = [] := by simp [signs, lexemes]

theorem signs_of_allBlank {trail : Text}
    (allBlank : ∀ other ∈ trail, isBlank other = true) :
    Idle (signs trail) := by
  have ends : ([] : Text).head?.any isBlank = false := rfl
  obtain ⟨idle, isIdle, divided⟩ := signs_blanks_append allBlank ends
  rw [List.append_nil, signs_nil, List.append_nil] at divided
  rw [divided]
  exact isIdle

theorem signs_append_blanks {body trail : Text}
    (allBlank : ∀ other ∈ trail, isBlank other = true)
    (last : ∀ char, body.getLast? = some char → isBlank char = false) :
    ∃ idle, Idle idle ∧ signs (body ++ trail) = signs body ++ idle := by
  induction size : body.length using Nat.strongRecOn generalizing body with
  | ind bound induction =>
      cases body with
      | nil => exact ⟨signs trail, signs_of_allBlank allBlank, by simp⟩
      | cons char body =>
          have proper : ∃ other ∈ char :: body, isBlank other = false := by
            have found := List.getLast?_eq_some_getLast
              (List.cons_ne_nil char body)
            exact ⟨_, List.mem_of_getLast? found, last _ found⟩
          by_cases inside : (first char (body ++ trail)).2 ≤ body.length
          · obtain ⟨lexeme, later, divided, -, whole, part⟩ :=
              exists_common_lexeme inside
                (.inl (beginsWord_of_allBlank allBlank))
            have lastLater : ∀ other, later.getLast? = some other →
                isBlank other = false := by
              intro other found
              apply last
              rw [divided, ← List.cons_append, List.getLast?_append, found]
              rfl
            have shorter : later.length < bound := by
              rw [← size, divided, List.length_cons, List.length_append]
              omega
            obtain ⟨idle, isIdle, rest⟩ :=
              induction later.length shorter lastLater rfl
            refine ⟨idle, isIdle, ?_⟩
            simp only [signs] at rest
            simp only [List.cons_append, signs, whole, part, List.filter_cons,
              rest]
            split <;> rfl
          · have beyond := Nat.lt_of_not_le inside
            obtain ⟨isComment, same⟩ := first_of_lt allBlank proper beyond
            have left : ∀ other ∈ (body ++ trail).drop
                (first char (body ++ trail)).2, isBlank other = true := by
              intro other member
              rw [List.drop_append,
                List.drop_eq_nil_of_le (Nat.le_of_lt beyond),
                List.nil_append] at member
              exact allBlank other (List.mem_of_mem_drop member)
            have none : signs (char :: body) = [] := by
              rw [signs_cons, same, List.drop_length, signs_nil]
              rfl
            refine ⟨_, signs_of_allBlank left, ?_⟩
            rw [List.cons_append, signs_cons, isComment, none]
            rfl

/-- The signs of a text are those of the text without the blanks around it, but
for idle ones. -/
theorem signs_trim (text : Text) :
    ∃ front back, Idle front ∧ Idle back
      ∧ signs text = front ++ signs (Text.trim text) ++ back := by
  let start := Text.trimStart text
  have front : text = text.takeWhile isBlank ++ start :=
    List.takeWhile_append_dropWhile.symm
  have back : start = Text.trim text
      ++ (start.reverse.takeWhile isBlank).reverse := Text.trimStart_eq text
  have startsProper : start.head?.any isBlank = false := by
    have head := Text.head?_trimStart text
    cases found : start.head? with
    | none => rfl
    | some char => exact head char found
  have trailBlank : ∀ char ∈ (start.reverse.takeWhile isBlank).reverse,
      isBlank char = true := by
    intro char member
    exact List.mem_takeWhile_imp (List.mem_reverse.mp member)
  obtain ⟨first, firstIdle, firstSigns⟩ := signs_blanks_append
    (fun _ member => List.mem_takeWhile_imp member) startsProper
  obtain ⟨last, lastIdle, lastSigns⟩ :=
    signs_append_blanks trailBlank (Text.getLast?_trim text)
  refine ⟨first, last, firstIdle, lastIdle, ?_⟩
  rw [← back] at lastSigns
  rw [← front] at firstSigns
  rw [firstSigns, lastSigns, List.append_assoc]

end Lexeme

end SchemaSheet
