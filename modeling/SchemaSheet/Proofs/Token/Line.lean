import SchemaSheet.Proofs.Token.Coverage
import SchemaSheet.Proofs.Token.Trimming

/-!
# Lines of tokens

A line ends at a line feed and at a return, and a return with a line feed behind
it ends one line only.  Places count a return only where it is a lexeme by
itself: `line_behind` says that they miss the returns inside other lexemes and
nothing else.
-/

namespace SchemaSheet

namespace Text

/-- Returns without a line feed behind them. -/
def loneReturns : Text → Nat
  | [] => 0
  | char :: rest =>
      if char = .of '\r' ∧ rest.head? ≠ some (.of '\n') then
        loneReturns rest + 1
      else loneReturns rest

/-- The line breaks of a text. -/
def breaks (text : Text) : Nat :=
  text.count (.of '\n') + loneReturns text

/-- The line, from one, of the character with the given offset. -/
def lineAt (text : Text) (offset : Nat) : Nat :=
  breaks (text.take offset) + 1

/-- No line break lies across both texts. -/
def Parted (front back : Text) : Prop :=
  front.getLast? = some (.of '\r') → back.head? ≠ some (.of '\n')

/-- No two characters that `joined` says belong together stand on both sides of
the seam between the texts. -/
def Fenced (joined : Character → Character → Prop) (front back : Text) : Prop :=
  ∀ last ∈ front.getLast?, ∀ next ∈ back.head?, ¬joined last next

theorem Parted.of_append {front back rest : Text}
    (parted : Parted front (back ++ rest)) : Parted front back := by
  intro ends begins
  apply parted ends
  rw [List.head?_append, begins]
  rfl

theorem loneReturns_append {front back : Text} (parted : Parted front back) :
    loneReturns (front ++ back) = loneReturns front + loneReturns back := by
  induction front with
  | nil => simp [loneReturns]
  | cons char rest induction =>
      rw [List.cons_append, loneReturns, loneReturns]
      cases rest with
      | nil =>
          by_cases isReturn : char = .of '\r'
          · subst isReturn
            have apart := parted rfl
            simp [loneReturns, apart, Nat.add_comm]
          · simp [loneReturns, isReturn]
      | cons next rest =>
          have laterParted : Parted (next :: rest) back := by
            intro ends
            exact parted ends
          rw [induction laterParted, List.cons_append, List.head?_cons,
            List.head?_cons]
          split
          · exact Nat.add_right_comm _ _ _
          · rfl

theorem breaks_append {front back : Text} (parted : Parted front back) :
    breaks (front ++ back) = breaks front + breaks back := by
  rw [breaks, List.count_append, loneReturns_append parted, breaks, breaks]
  omega

end Text

namespace Lexeme

theorem LastOf.mono {text : Text} {length : Nat}
    {accepts other : Character → Prop} (last : LastOf text length accepts)
    (weaker : ∀ char, accepts char → other char) :
    LastOf text length other := by
  obtain ⟨count, char, same, present, accepted⟩ := last
  exact ⟨count, char, same, present, weaker char accepted⟩

theorem LastOf.getLast? {text : Text} {length : Nat}
    {accepts : Character → Prop} (last : LastOf text length accepts)
    (char : Character) :
    ∃ final, (char :: text.take length).getLast? = some final
      ∧ accepts final := by
  obtain ⟨count, final, rfl, present, accepted⟩ := last
  refine ⟨final, ?_, accepted⟩
  rw [List.take_add_one, present, ← List.cons_append]
  exact List.getLast?_concat

/-- The last character that a lexeme has behind its first one, if it has any, is
no return. -/
def Steady (text : Text) (length : Nat) : Prop :=
  length = 0 ∨ LastOf text length (· ≠ .of '\r')

theorem isWordChar_return : isWordChar (.of '\r') = false :=
  Starter.isWordChar_of_mem_marks (by decide)

theorem steady_read {starter : Starter} {char : Character} (text : Text)
    (described : starter.Describes char)
    (other : starter ≠ .carriageReturn) :
    Steady text (starter.read char text).2 := by
  refine (starter.lastOf_read char text).imp_right fun last => last.mono ?_
  rintro final closes rfl
  cases starter with
  | dash | slash | hash | blank => cases closes
  | carriageReturn => exact other rfl
  | quote kind escapes =>
      obtain rfl : .of '\r' = char := closes
      exact nomatch described.1
  | digit | letter => exact nomatch isWordChar_return.symm.trans closes
  | alone kind => exact closes

/-- No line break lies across the end of a lexeme. -/
theorem parted_first (char : Character) (text : Text) :
    Text.Parted (char :: text.take (first char text).2)
      (text.drop (first char text).2) := by
  intro ends
  rw [first_eq_read] at ends ⊢
  by_cases starter : Starter.of char = .carriageReturn
  · simp only [starter, Starter.read] at ends ⊢
    split at ends
    case _ follows =>
      obtain ⟨later, rfl⟩ := List.head?_eq_some_iff.mp follows
      cases ends
    case _ alone =>
      rw [if_neg alone]
      exact alone
  · rcases steady_read text (Starter.describes_of char) starter with
      none | last
    · rw [none] at ends
      cases ends
      exact absurd rfl starter
    · obtain ⟨final, same, noReturn⟩ := last.getLast? char
      rw [same] at ends
      cases ends
      exact absurd rfl noReturn

/-- Characters that never stand on both sides of the end of a first lexeme
never stand on both sides of a place between lexemes. -/
theorem fenced_of_divided {joined : Character → Character → Prop}
    (fenced : ∀ (char : Character) (rest : Text), Text.Fenced joined
      (char :: rest.take (first char rest).2)
      (rest.drop (first char rest).2))
    {text : Text} {front later : List Lexeme}
    (divided : lexemes text = front ++ later) :
    Text.Fenced joined (front.flatMap Lexeme.text)
      (later.flatMap Lexeme.text) := by
  rcases front.eq_nil_or_concat with rfl | ⟨front, last, rfl⟩
  · exact nofun
  · rw [List.concat_eq_append, List.append_assoc,
      List.singleton_append] at divided
    obtain ⟨char, rest, rfl, behind⟩ := exists_first_of_divided divided
    intro final ends
    rw [List.concat_eq_append, List.flatMap_append, List.flatMap_singleton,
      List.getLast?_append_of_ne_nil _ (List.cons_ne_nil _ _)] at ends
    rw [behind]
    exact fenced char rest final ends

/-- Returns of a lexeme that end a line and that places do not count. -/
def hiddenReturns (lexeme : Lexeme) : Nat :=
  if lexeme.kind = .lineBreak then 0 else lexeme.text.loneReturns

/-- Returns inside lexemes that places do not count. -/
def hidden : List Lexeme → Nat
  | [] => 0
  | lexeme :: rest => lexeme.hiddenReturns + hidden rest

end Lexeme

namespace Place

theorem line_after {lexeme : Lexeme} {rest : Text} (place : Place)
    (shaped : lexeme.Shaped rest) :
    (place.after lexeme).line + lexeme.hiddenReturns
      = place.line + lexeme.text.breaks := by
  obtain ⟨kind, text⟩ := lexeme
  by_cases isBreak : kind = .lineBreak
  · subst isBreak
    have single : ∀ mark ∈ lineBreaks, Text.breaks mark = 1 := by decide
    have one := single text shaped
    simp [after, Lexeme.hiddenReturns, one]
  · simp only [after, Lexeme.hiddenReturns, isBreak, if_false, Text.breaks]
    split <;> simp only <;> omega

/-- The places of lexemes that a text begins with count its line breaks, but for
returns inside other lexemes. -/
theorem line_behind {text : Text} {front later : List Lexeme} (place : Place)
    (divided : lexemes text = front ++ later) :
    (place.behind front).line + Lexeme.hidden front
      = place.line + Text.breaks (front.flatMap Lexeme.text) := by
  induction front generalizing text place with
  | nil => rfl
  | cons lexeme front induction =>
      cases text with
      | nil => simp [lexemes] at divided
      | cons char text =>
          have shaped := Lexeme.fits_first char text
          have parted := Lexeme.parted_first char text
          rw [Lexeme.Fits] at shaped
          rw [Lexeme.lexemes_cons, List.cons_append] at divided
          obtain ⟨rfl, behind⟩ := List.cons.inj divided
          have rest := flatMap_lexemes (text.drop (Lexeme.first char text).2)
          rw [behind, List.flatMap_append] at rest
          rw [← rest] at shaped parted
          have counted := line_after place shaped
          have later := induction (place.after ⟨(Lexeme.first char text).1,
            char :: text.take (Lexeme.first char text).2⟩) behind
          have together := Text.breaks_append parted.of_append
          simp only [behind_cons, Lexeme.hidden,
            List.flatMap_cons] at counted later ⊢
          omega

theorem take_behind {text : Text} {front later : List Lexeme}
    (divided : lexemes text = front ++ later) :
    text.take (Place.start.behind front).offset
      = front.flatMap Lexeme.text := by
  have whole := flatMap_lexemes text
  rw [divided, List.flatMap_append] at whole
  rw [offset_behind_start, ← whole]
  exact List.take_left

theorem drop_behind {text : Text} {front later : List Lexeme}
    (divided : lexemes text = front ++ later) :
    text.drop (Place.start.behind front).offset
      = later.flatMap Lexeme.text := by
  have whole := flatMap_lexemes text
  rw [divided, List.flatMap_append] at whole
  rw [offset_behind_start, ← whole]
  exact List.drop_left

/-- The line of a place is its line in the text, but for hidden returns in front
of it. -/
theorem lineAt_behind {text : Text} {front later : List Lexeme}
    (divided : lexemes text = front ++ later) :
    Text.lineAt text (Place.start.behind front).offset
      = (Place.start.behind front).line + Lexeme.hidden front := by
  rw [Text.lineAt, take_behind divided]
  have counted := line_behind .start divided
  have start : Place.start.line = 1 := rfl
  omega

end Place

namespace Token

/-- The token is a lexeme of the text, behind the given ones. -/
def ReadBehind (text : Text) (front : List Lexeme) (token : Token) : Prop :=
  ∃ lexeme later, lexemes text = front ++ lexeme :: later
    ∧ token = ⟨lexeme.kind, lexeme.text, Place.start.behind front⟩

theorem readBehind_of_mem_placed {text : Text} {token : Token}
    (member : token ∈ placed .start (lexemes text)) :
    (∃ front, ReadBehind text front token)
      ∨ token = ⟨.endOfText, [], Place.start.behind (lexemes text)⟩ := by
  rw [placed_eq] at member
  rcases List.mem_append.mp member with inner | last
  · obtain ⟨front, lexeme, later, divided, made⟩ :=
      exists_of_mem_tokensAt inner
    exact .inl ⟨front, lexeme, later, divided, made⟩
  · exact .inr (List.mem_singleton.mp last)

theorem exists_readBehind {keepBreaks : Bool} {text : Text} {token : Token}
    (member : token ∈ tokenize keepBreaks text)
    (proper : token.kind ≠ .endOfText) :
    ∃ front, ReadBehind text front token := by
  rw [tokenize_eq] at member
  rcases readBehind_of_mem_placed (List.mem_filter.mp member).1 with
    behind | rfl
  · exact behind
  · exact absurd rfl proper

variable {text : Text} {front : List Lexeme} {token : Token}

theorem ReadBehind.getElem?_of_openParen
    (behind : ReadBehind text front token) (opens : token.kind = .openParen) :
    text[token.offset]? = some (.of '(') := by
  obtain ⟨lexeme, later, divided, rfl⟩ := behind
  have isParen := Lexeme.eq_openParen (Lexeme.lexemes_suffix divided) opens
  have whole := flatMap_lexemes text
  rw [divided, isParen, List.flatMap_append] at whole
  rw [offset, Place.offset_behind_start, ← whole,
    List.getElem?_append_right (Nat.le_refl _), Nat.sub_self]
  rfl

theorem ReadBehind.lineAt_offset (behind : ReadBehind text front token) :
    Text.lineAt text token.offset
      = token.place.line + Lexeme.hidden front := by
  obtain ⟨lexeme, later, divided, rfl⟩ := behind
  exact Place.lineAt_behind divided

end Token

end SchemaSheet
