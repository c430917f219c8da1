import SchemaSheet.Proofs.Token.Line
import SchemaSheet.Proofs.Token.LiteralContent

/-!
# Lines and columns

Places are counted on from lexeme to lexeme, in another way for line breaks,
for lexemes that hold line feeds and for all others.  They are the lines and
columns of the text, unless a return that ends a line by itself stands inside a
literal or a block comment.  `standsIn_of_mem_tokenize` says so for every
token, and `returnsFollowed_of_standsIn` that nothing less is enough.
-/

namespace SchemaSheet

namespace Text

/-- Characters behind the last line break of a text. -/
def lastLineLength (text : Text) : Nat :=
  (text.reverse.takeWhile Lexeme.isInLine).length

/-- The column, from one, of the character with the given offset. -/
def columnAt (text : Text) (offset : Nat) : Nat :=
  lastLineLength (text.take offset) + 1

theorem length_takeWhile_reverse {accepts : Character → Bool} {last : Character}
    {back : Text} (front : Text)
    (accepted : ∀ char ∈ back, accepts char = true)
    (stops : accepts last = false) :
    ((front ++ last :: back).reverse.takeWhile accepts).length
      = back.length := by
  have reversed : (front ++ last :: back).reverse
      = back.reverse ++ last :: front.reverse := by simp
  have inner : ∀ char ∈ back.reverse, accepts char = true := by
    simpa using accepted
  rw [reversed, List.takeWhile_append_of_pos inner,
    List.takeWhile_cons_of_neg (by simp [stops]), List.append_nil,
    List.length_reverse]

theorem lastLineLength_of_break {last : Character} {back : Text} (front : Text)
    (inLine : ∀ char ∈ back, Lexeme.isInLine char = true)
    (breaks : Lexeme.isInLine last = false) :
    lastLineLength (front ++ last :: back) = back.length :=
  length_takeWhile_reverse front inLine breaks

theorem lastLineLength_lineBreak {mark : Text} (front : Text)
    (isBreak : mark ∈ lineBreaks) : lastLineLength (front ++ mark) = 0 := by
  have ends : ∃ begins last, mark = begins ++ [last]
      ∧ Lexeme.isInLine last = false := by
    simp only [lineBreaks, List.mem_cons, List.not_mem_nil,
      or_false] at isBreak
    rcases isBreak with rfl | rfl | rfl
    · exact ⟨[.of '\r'], .of '\n', rfl, rfl⟩
    · exact ⟨[], .of '\r', rfl, rfl⟩
    · exact ⟨[], .of '\n', rfl, rfl⟩
  obtain ⟨begins, last, rfl, breaks⟩ := ends
  rw [← List.append_assoc]
  exact lastLineLength_of_break _ (List.forall_mem_nil _) breaks

theorem lastLineLength_append {back : Text} (front : Text)
    (inLine : ∀ char ∈ back, Lexeme.isInLine char = true) :
    lastLineLength (front ++ back) = lastLineLength front + back.length := by
  have inner : ∀ char ∈ back.reverse, Lexeme.isInLine char = true := by
    simpa using inLine
  rw [lastLineLength, List.reverse_append,
    List.takeWhile_append_of_pos inner, List.length_append,
    List.length_reverse, lastLineLength, Nat.add_comm]

theorem head?_of_loneReturns {text front back : Text}
    (settled : loneReturns text = 0)
    (divided : text = front ++ .of '\r' :: back) :
    back.head? = some (.of '\n') := by
  induction front generalizing text with
  | nil =>
      rw [divided, List.nil_append, loneReturns] at settled
      by_contra alone
      rw [if_pos ⟨rfl, alone⟩] at settled
      cases settled
  | cons char front induction =>
      rw [divided, List.cons_append, loneReturns] at settled
      split at settled
      · cases settled
      · exact induction settled rfl

theorem loneReturns_of_not_mem {text : Text} (noReturn : .of '\r' ∉ text) :
    loneReturns text = 0 := by
  induction text with
  | nil => rfl
  | cons char rest induction =>
      obtain ⟨other, later⟩ := List.ne_and_not_mem_of_not_mem_cons noReturn
      rw [loneReturns, if_neg fun both => other both.1.symm, induction later]

theorem isInLine_of_loneReturns {text front back : Text}
    (settled : loneReturns text = 0) (divided : text = front ++ back)
    (noFeed : .of '\n' ∉ back) :
    ∀ char ∈ back, Lexeme.isInLine char = true := by
  intro char member
  simp only [Lexeme.isInLine, Bool.and_eq_true, bne_iff_ne]
  constructor
  · rintro rfl
    obtain ⟨before, after, rfl⟩ := List.mem_iff_append.mp member
    rw [← List.append_assoc] at divided
    obtain ⟨later, rfl⟩ :=
      List.head?_eq_some_iff.mp (head?_of_loneReturns settled divided)
    exact noFeed (by simp)
  · rintro rfl
    exact noFeed member

theorem exists_last_feed {text : Text} (feed : .of '\n' ∈ text) :
    ∃ front back, text = front ++ .of '\n' :: back ∧ .of '\n' ∉ back := by
  obtain ⟨back, front, reversed, noFeed⟩ :=
    List.eq_append_cons_of_mem (List.mem_reverse.mpr feed)
  refine ⟨front.reverse, back.reverse, ?_, by simpa using noFeed⟩
  rw [← text.reverse_reverse, reversed]
  simp

end Text

namespace Lexeme

/-- Places count all line breaks of the lexeme: it is a line break itself, or
each of its returns has a line feed behind it. -/
def Tracked (lexeme : Lexeme) : Prop :=
  if lexeme.kind = .lineBreak then lexeme.text ∈ lineBreaks
  else lexeme.text.loneReturns = 0

theorem Tracked.hiddenReturns {lexeme : Lexeme} (tracked : lexeme.Tracked) :
    lexeme.hiddenReturns = 0 := by
  rw [Tracked] at tracked
  rw [Lexeme.hiddenReturns]
  split
  · rfl
  case _ other => rwa [if_neg other] at tracked

theorem hidden_eq_zero_iff {front : List Lexeme} :
    hidden front = 0 ↔ ∀ lexeme ∈ front, lexeme.hiddenReturns = 0 := by
  induction front with
  | nil => simp [hidden]
  | cons lexeme front induction =>
      rw [hidden, List.forall_mem_cons, ← induction]
      exact Nat.add_eq_zero_iff

end Lexeme

namespace Place

/-- The column behind a text with line feeds, where each of its returns has one
behind it. -/
theorem columnAfter_eq {text : Text} (before : Text)
    (followed : text.loneReturns = 0) (feed : .of '\n' ∈ text) :
    columnAfter text = (before ++ text).lastLineLength + 1 := by
  obtain ⟨front, back, rfl, noFeed⟩ := Text.exists_last_feed feed
  have inLine := Text.isInLine_of_loneReturns followed
    (List.append_cons front _ back) noFeed
  have noFeeds : ∀ char ∈ back, (char != .of '\n') = true := by
    intro char member
    exact bne_iff_ne.mpr (ne_of_mem_of_not_mem member noFeed)
  rw [columnAfter, Text.length_takeWhile_reverse front noFeeds rfl,
    ← List.append_assoc, Text.lastLineLength_of_break _ inLine rfl]

theorem column_after {lexeme : Lexeme} (place : Place) (before : Text)
    (tracked : lexeme.Tracked)
    (stands : place.column = before.lastLineLength + 1) :
    (place.after lexeme).column
      = (before ++ lexeme.text).lastLineLength + 1 := by
  rw [Lexeme.Tracked] at tracked
  rw [after]
  split
  case _ isBreak =>
    rw [if_pos isBreak] at tracked
    rw [Text.lastLineLength_lineBreak before tracked]
  case _ noBreak =>
    rw [if_neg noBreak] at tracked
    split
    case _ none =>
      have inLine := Text.isInLine_of_loneReturns tracked
        lexeme.text.nil_append.symm (List.count_eq_zero.mp none)
      rw [Text.lastLineLength_append _ inLine]
      simp only [stands]
      exact Nat.add_right_comm _ _ _
    case _ some =>
      have feed : .of '\n' ∈ lexeme.text := by
        by_contra noFeed
        exact some (List.count_eq_zero.mpr noFeed)
      exact columnAfter_eq before tracked feed

theorem column_behind {front : List Lexeme} (place : Place) (before : Text)
    (tracked : ∀ lexeme ∈ front, lexeme.Tracked)
    (stands : place.column = before.lastLineLength + 1) :
    (place.behind front).column
      = (before ++ front.flatMap Lexeme.text).lastLineLength + 1 := by
  induction front generalizing place before with
  | nil => rwa [List.flatMap_nil, List.append_nil]
  | cons lexeme front induction =>
      obtain ⟨here, later⟩ := List.forall_mem_cons.mp tracked
      have moved := column_after place before here stands
      rw [behind_cons, List.flatMap_cons, ← List.append_assoc]
      exact induction _ _ later moved

/-- No line break lies across a place between lexemes. -/
theorem parted_behind {text : Text} {front later : List Lexeme}
    (divided : lexemes text = front ++ later) :
    Text.Parted (text.take (Place.start.behind front).offset)
      (text.drop (Place.start.behind front).offset) := by
  rw [take_behind divided, drop_behind divided]
  have fenced : Text.Fenced
      (fun last next => last = .of '\r' ∧ next = .of '\n')
      (front.flatMap Lexeme.text) (later.flatMap Lexeme.text) := by
    refine Lexeme.fenced_of_divided ?_ divided
    rintro char rest last ends next begins ⟨rfl, rfl⟩
    exact Lexeme.parted_first char rest ends begins
  intro ends begins
  exact fenced _ ends _ begins ⟨rfl, rfl⟩

end Place

namespace Lexeme

/-- The lexeme is in quotes or a block comment. -/
def isEnclosed (lexeme : Lexeme) : Bool :=
  lexeme.kind.isQuoted
    || lexeme.kind == .comment && lexeme.text.head? == some (.of '/')

theorem isWordChar_of_mem_digits (text : Text) :
    ∀ char ∈ text.take (runLength isDigit text), isWordChar char = true := by
  intro char member
  rw [take_runLength] at member
  exact isWordChar_of_isDigit (List.mem_takeWhile_imp member)

theorem char_of_mem_numeral (text : Text) :
    ∀ char ∈ text.take (numeral text).2,
      isWordChar char = true ∨ char = .of '.' := by
  intro char
  unfold numeral
  simp only
  split
  case _ length fraction =>
    obtain ⟨rest, point, -, -, rfl⟩ := exists_of_fractionLength? fraction
    rw [List.take_add, List.mem_append, point, List.take_succ_cons,
      List.mem_cons]
    rintro (inner | same | inside)
    · exact .inl (isWordChar_of_mem_digits text char inner)
    · exact .inr same
    · exact .inl (isWordChar_of_mem_digits rest char inside)
  case _ =>
    intro member
    split at member
    · rw [take_runLength] at member
      exact .inl (List.mem_takeWhile_imp member)
    · exact .inl (isWordChar_of_mem_digits text char member)

theorem not_mem_return_of_run {accepts : Character → Bool} {char : Character}
    {text : Text} (other : char ≠ .of '\r')
    (refused : accepts (.of '\r') = false) :
    .of '\r' ∉ char :: text.take (runLength accepts text) := by
  rw [take_runLength, List.mem_cons]
  rintro (same | inside)
  · exact other same.symm
  · rw [List.mem_takeWhile_imp inside] at refused
    cases refused

/-- Returns stand in line breaks, in literals and in block comments only. -/
theorem not_mem_return {char : Character} {text : Text}
    (noBreak : (first char text).1 ≠ .lineBreak)
    (bare : isEnclosed
      ⟨(first char text).1, char :: text.take (first char text).2⟩ = false) :
    .of '\r' ∉ char :: text.take (first char text).2 := by
  have described := Starter.describes_of char
  have single : char ≠ .of '\r' → .of '\r' ∉ char :: text.take 0 := by
    intro other
    rw [List.take_zero, List.mem_singleton]
    exact Ne.symm other
  rw [first_eq_read] at noBreak bare ⊢
  have other : char ≠ .of '\r' := by
    rintro rfl
    exact noBreak rfl
  cases starter : Starter.of char with
  | dash =>
      rw [Starter.read]
      split
      · exact not_mem_return_of_run other rfl
      · exact single other
  | slash =>
      rw [starter] at described bare
      rw [Starter.read] at bare ⊢
      unfold slash at bare ⊢
      split at bare
      · split at bare
        · rw [described] at bare
          cases bare
        · exact single other
      · exact single other
  | hash => exact not_mem_return_of_run other rfl
  | carriageReturn =>
      rw [starter] at described
      exact absurd described other
  | blank => exact not_mem_return_of_run other rfl
  | quote kind escapes =>
      obtain ⟨quotation, -, rfl, -⟩ := Starter.exists_quotation starter
      rw [starter, Starter.read] at bare
      rw [Starter.read]
      unfold quoted at bare ⊢
      split at bare
      · cases quotation <;> cases bare
      · exact single other
  | digit =>
      rw [Starter.read, List.mem_cons]
      rintro (same | inside)
      · exact other same.symm
      · rcases char_of_mem_numeral text _ inside with word | point
        · rw [isWordChar_return] at word
          cases word
        · cases point
  | letter => exact not_mem_return_of_run other isWordChar_return
  | alone kind => exact single other

end Lexeme

namespace Text

/-- No return that ends a line by itself stands inside a literal or a block
comment. -/
def ReturnsFollowed (text : Text) : Prop :=
  ∀ lexeme ∈ lexemes text,
    lexeme.isEnclosed = true → lexeme.text.loneReturns = 0

instance (text : Text) : Decidable (ReturnsFollowed text) :=
  inferInstanceAs (Decidable (∀ lexeme ∈ lexemes text,
    lexeme.isEnclosed = true → lexeme.text.loneReturns = 0))

end Text

theorem Lexeme.tracked_of_mem {text : Text} {lexeme : Lexeme}
    (followed : text.ReturnsFollowed) (member : lexeme ∈ lexemes text) :
    lexeme.Tracked := by
  have enclosed := followed lexeme member
  obtain ⟨char, rest, rfl⟩ := Lexeme.exists_first_of_mem_lexemes member
  rw [Tracked]
  split
  case _ isBreak =>
    have shaped := fits_first char rest
    rw [Fits, Shaped] at shaped
    simp only at isBreak
    simpa only [isBreak] using shaped
  case _ noBreak =>
    by_cases isEnclosed : Lexeme.isEnclosed
      ⟨(first char rest).1, char :: rest.take (first char rest).2⟩ = true
    · exact enclosed isEnclosed
    · have noReturn := not_mem_return noBreak (Bool.eq_false_iff.mpr isEnclosed)
      exact Text.loneReturns_of_not_mem noReturn

namespace Token

/-- The place of the token is where it stands in the text: its offset lies
inside no line break, and its line and its column are those of the character
there. -/
structure StandsIn (text : Text) (token : Token) : Prop where
  parted : Text.Parted (text.take token.offset) (text.drop token.offset)
  line : token.place.line = Text.lineAt text token.offset
  column : token.place.column = Text.columnAt text token.offset

theorem exists_front_of_mem_placed {text : Text} {token : Token}
    (member : token ∈ placed .start (lexemes text)) :
    ∃ front later, lexemes text = front ++ later
      ∧ token.place = Place.start.behind front := by
  rcases readBehind_of_mem_placed member with
    ⟨front, lexeme, later, divided, rfl⟩ | rfl
  · exact ⟨front, lexeme :: later, divided, rfl⟩
  · exact ⟨lexemes text, [], (List.append_nil _).symm, rfl⟩

theorem exists_front_of_mem_tokenize {keepBreaks : Bool} {text : Text}
    {token : Token} (member : token ∈ tokenize keepBreaks text) :
    ∃ front later, lexemes text = front ++ later
      ∧ token.place = Place.start.behind front := by
  rw [tokenize_eq] at member
  exact exists_front_of_mem_placed (List.mem_filter.mp member).1

/-- Lines and columns of tokens are those of the text, the mark of the end
included. -/
theorem standsIn_of_mem_tokenize {keepBreaks : Bool} {text : Text}
    {token : Token} (followed : text.ReturnsFollowed)
    (member : token ∈ tokenize keepBreaks text) : token.StandsIn text := by
  obtain ⟨front, later, divided, place⟩ := exists_front_of_mem_tokenize member
  have tracked : ∀ lexeme ∈ front, lexeme.Tracked := by
    intro lexeme inside
    apply Lexeme.tracked_of_mem followed
    rw [divided]
    exact List.mem_append_left later inside
  refine ⟨?_, ?_, ?_⟩
  · rw [offset, place]
    exact Place.parted_behind divided
  · have noneHidden : Lexeme.hidden front = 0 :=
      Lexeme.hidden_eq_zero_iff.mpr fun lexeme inside =>
        (tracked lexeme inside).hiddenReturns
    rw [offset, place, Place.lineAt_behind divided, noneHidden]
    rfl
  · have column := Place.column_behind .start [] tracked rfl
    rw [offset, place, Text.columnAt, Place.take_behind divided]
    exact column

/-- Nothing less is enough: if the mark of the end has its line, then no return
that ends a line by itself stands inside a literal or a block comment. -/
theorem returnsFollowed_of_standsIn {keepBreaks : Bool} {text : Text}
    (stands : ∀ token ∈ tokenize keepBreaks text, token.StandsIn text) :
    text.ReturnsFollowed := by
  have isLast : ⟨.endOfText, [], Place.start.behind (lexemes text)⟩
      ∈ tokenize keepBreaks text := by
    rw [tokenize_eq, placed_eq, List.filter_append, List.mem_append]
    right
    cases keepBreaks <;> exact List.mem_singleton_self _
  have line := (stands _ isLast).line
  rw [offset, Place.lineAt_behind (List.append_nil _).symm,
    Nat.left_eq_add] at line
  intro lexeme member isEnclosed
  have none := Lexeme.hidden_eq_zero_iff.mp line lexeme member
  rw [Lexeme.hiddenReturns] at none
  split at none
  case _ isBreak =>
    simp [Lexeme.isEnclosed, isBreak, Kind.isQuoted] at isEnclosed
  case _ => exact none

/-- A text whose last token has line breaks of every kind in front of it: a
return, one with a line feed in a literal, and a line feed in a comment. -/
def brokenText : Text := "a\r'b\r\nc' /*\n*/ d"

def lastOfBroken : Token := ⟨.word, "d", ⟨4, 4, 15⟩⟩

theorem standsIn_of_mem_tokenize_broken :
    brokenText.ReturnsFollowed ∧ lastOfBroken ∈ tokenize false brokenText
      ∧ lastOfBroken.StandsIn brokenText := by
  have followed : brokenText.ReturnsFollowed := by decide +kernel
  have member : lastOfBroken ∈ tokenize false brokenText := by
    decide +kernel
  exact ⟨followed, member, standsIn_of_mem_tokenize followed member⟩

end Token

end SchemaSheet
