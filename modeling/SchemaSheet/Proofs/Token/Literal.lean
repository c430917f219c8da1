import SchemaSheet.Proofs.Token.Coverage
import SchemaSheet.Proofs.Token.LineEnding
import SchemaSheet.Table.Block

/-!
# Literals

A literal is a body in quotes, and a body is a sequence of units: characters,
backslashes that take the next character with them, and doubled quotes.  No two
literals have the same text.  `readBefore_of_ends` says how a literal is read
behind which its quote does not go on: as one token, unless one of its
backslashes stands in front of a line feed.
-/

namespace SchemaSheet

/-- The quotes that literals stand in. -/
inductive Quotation where
  | single
  | double
  | back
  deriving DecidableEq, Repr

namespace Quotation

/-- The quote as a character. -/
def mark : Quotation → Character
  | single => '\''
  | double => '"'
  | back => backquote

/-- The kind of the tokens in these quotes. -/
def kind : Quotation → Kind
  | single => .quotedText
  | double | back => .quotedName

/-- Does a backslash take the next character with it? -/
def escapes : Quotation → Bool
  | single | double => true
  | back => false

variable (quotation : Quotation)

theorem starter_mark :
    Lexeme.Starter.of quotation.mark
      = .quote quotation.kind quotation.escapes := by
  cases quotation <;> exact Lexeme.Starter.of_eq_of_mem (by decide)

theorem isQuote_mark : isQuote quotation.mark = true := by
  cases quotation <;> rfl

theorem mark_ne_backslash : quotation.mark ≠ .of '\\' := by
  cases quotation <;> decide

theorem kind_ne_operator : quotation.kind ≠ .operator := by
  cases quotation <;> decide

theorem isKept_kind (keepBreaks : Bool) :
    Token.isKept keepBreaks quotation.kind = true := by
  cases quotation <;> cases keepBreaks <;> rfl

theorem mark_injective {first second : Quotation}
    (same : first.mark = second.mark) : first = second := by
  revert same
  cases first <;> cases second <;> decide

end Quotation

/-- What a body in the quotes consists of. -/
inductive BodyUnit (quotation : Quotation) where
  /-- A character that stands for itself. -/
  | plain (char : Character) (noMark : char ≠ quotation.mark)
      (noEscape : quotation.escapes = true → char ≠ .of '\\')
  /-- A backslash and the character behind it. -/
  | escaped (char : Character) (escapes : quotation.escapes = true)
  /-- The quote, written twice. -/
  | doubled

namespace BodyUnit

variable {quotation : Quotation}

def text : BodyUnit quotation → Text
  | plain char _ _ => [char]
  | escaped char _ => [.of '\\', char]
  | doubled => [quotation.mark, quotation.mark]

@[simp] theorem text_doubled :
    (doubled : BodyUnit quotation).text
      = [quotation.mark, quotation.mark] := rfl

/-- The unit is a backslash in front of a line feed. -/
def isEscapedFeed : BodyUnit quotation → Bool
  | escaped char _ => char == .of '\n'
  | _ => false

/-- The text of a body. -/
def body (units : List (BodyUnit quotation)) : Text :=
  units.flatMap text

@[simp] theorem body_nil : body ([] : List (BodyUnit quotation)) = [] := rfl

@[simp] theorem body_cons (unit : BodyUnit quotation)
    (rest : List (BodyUnit quotation)) :
    body (unit :: rest) = unit.text ++ body rest := rfl

theorem body_append (first second : List (BodyUnit quotation)) :
    body (first ++ second) = body first ++ body second :=
  List.flatMap_append

/-- No unit is a backslash in front of a line feed. -/
def Readable (units : List (BodyUnit quotation)) : Prop :=
  ∀ unit ∈ units, unit.isEscapedFeed = false

instance (units : List (BodyUnit quotation)) : Decidable (Readable units) :=
  inferInstanceAs (Decidable (∀ unit ∈ units, unit.isEscapedFeed = false))

theorem Readable.tail {unit : BodyUnit quotation}
    {rest : List (BodyUnit quotation)} (readable : Readable (unit :: rest)) :
    Readable rest :=
  (List.forall_mem_cons.mp readable).2

/-- Units are told apart by the texts that begin with them. -/
theorem eq_of_text_append {first second : BodyUnit quotation}
    {rest other : Text}
    (same : first.text ++ rest = second.text ++ other) :
    first = second ∧ rest = other := by
  have noBackslash := quotation.mark_ne_backslash
  cases first with
  | plain char noMark noEscape =>
      cases second with
      | plain letter _ _ =>
          obtain ⟨rfl, rest⟩ := List.cons.inj same
          exact ⟨rfl, rest⟩
      | escaped letter escapes =>
          exact absurd (List.cons.inj same).1 (noEscape escapes)
      | doubled => exact absurd (List.cons.inj same).1 noMark
  | escaped char escapes =>
      cases second with
      | plain letter _ noEscape =>
          exact absurd (List.cons.inj same).1.symm (noEscape escapes)
      | escaped letter _ =>
          obtain ⟨rfl, rest⟩ := List.cons.inj (List.cons.inj same).2
          exact ⟨rfl, rest⟩
      | doubled => exact absurd (List.cons.inj same).1.symm noBackslash
  | doubled =>
      cases second with
      | plain letter noMark _ =>
          exact absurd (List.cons.inj same).1.symm noMark
      | escaped letter _ => exact absurd (List.cons.inj same).1 noBackslash
      | doubled => exact ⟨rfl, (List.cons.inj (List.cons.inj same).2).2⟩

/-- A body is a sequence of units in one way only. -/
theorem body_injective {units others : List (BodyUnit quotation)}
    (same : body units = body others) : units = others := by
  have text_ne_nil : ∀ unit : BodyUnit quotation, unit.text ≠ [] := by
    intro unit
    cases unit <;> exact List.cons_ne_nil _ _
  induction units generalizing others with
  | nil =>
      cases others with
      | nil => rfl
      | cons other rest =>
          exact absurd (List.append_eq_nil_iff.mp same.symm).1
            (text_ne_nil other)
  | cons unit rest induction =>
      cases others with
      | nil =>
          exact absurd (List.append_eq_nil_iff.mp same).1 (text_ne_nil unit)
      | cons other later =>
          obtain ⟨rfl, behind⟩ := eq_of_text_append same
          rw [induction behind]

end BodyUnit

/-- A body in quotes. -/
structure Literal where
  quotation : Quotation
  units : List (BodyUnit quotation)

namespace Literal

def text (literal : Literal) : Text :=
  literal.quotation.mark
    :: (BodyUnit.body literal.units ++ [literal.quotation.mark])

/-- The literal as one lexeme. -/
def lexeme (literal : Literal) : Lexeme :=
  ⟨literal.quotation.kind, literal.text⟩

/-- No backslash of the literal stands in front of a line feed. -/
def Readable (literal : Literal) : Prop :=
  BodyUnit.Readable literal.units

instance (literal : Literal) : Decidable literal.Readable :=
  inferInstanceAs (Decidable (BodyUnit.Readable literal.units))

theorem text_injective {literal other : Literal}
    (same : literal.text = other.text) : literal = other := by
  obtain ⟨quotation, units⟩ := literal
  obtain ⟨otherQuotation, others⟩ := other
  obtain ⟨mark, bodies⟩ := List.cons.inj same
  obtain rfl : quotation = otherQuotation := Quotation.mark_injective mark
  obtain rfl : units = others :=
    BodyUnit.body_injective (List.append_cancel_right bodies)
  rfl

/-- What a literal is read as, where its quote does not go on behind it.  A
backslash in front of a line feed takes nothing with it, and the body ends in
the middle of the last doubled quote before.  Without one the opening quote is
an operator. -/
inductive ReadAs (literal : Literal) : Lexeme → Prop where
  | whole (readable : literal.Readable) : ReadAs literal literal.lexeme
  | cut {before after back : List (BodyUnit literal.quotation)}
      {feed : BodyUnit literal.quotation}
      (divided : literal.units = before ++ .doubled :: (after ++ feed :: back))
      (readable : BodyUnit.Readable before)
      (readableAfter : BodyUnit.Readable after)
      (noDoubled : .doubled ∉ after) (isFeed : feed.isEscapedFeed = true) :
      ReadAs literal (Literal.mk literal.quotation before).lexeme
  | unopened {front back : List (BodyUnit literal.quotation)}
      {feed : BodyUnit literal.quotation}
      (divided : literal.units = front ++ feed :: back)
      (readable : BodyUnit.Readable front) (noDoubled : .doubled ∉ front)
      (isFeed : feed.isEscapedFeed = true) :
      ReadAs literal ⟨.operator, [literal.quotation.mark]⟩

end Literal

namespace Lexeme

variable {quotation : Quotation}

/-- Only a doubled quote can close a body that is not closed later. -/
theorem quotedLength?_unit {unit : BodyUnit quotation} (rest : Text)
    (readable : unit.isEscapedFeed = false) (single : unit ≠ .doubled) :
    quotedLength? quotation.mark quotation.escapes (unit.text ++ rest)
      = (quotedLength? quotation.mark quotation.escapes rest).map
        (· + unit.text.length) := by
  cases unit with
  | plain char noMark noEscape =>
      apply quotedLength?_plain rest noMark
      cases escapes : quotation.escapes with
      | false => rfl
      | true => simpa using noEscape escapes
  | escaped char escapes =>
      have escaped : (quotation.escapes && .of '\\' == Character.of '\\')
          = true := by
        rw [escapes]
        rfl
      have inLine : char ≠ .of '\n' := by
        rintro rfl
        cases readable
      exact quotedLength?_escaped quotation.mark_ne_backslash.symm escaped
        inLine
  | doubled => exact absurd rfl single

theorem quotedLength?_body {units : List (BodyUnit quotation)} {rest : Text}
    {length : Nat} (readable : BodyUnit.Readable units)
    (closed : quotedLength? quotation.mark quotation.escapes rest
      = some length) :
    quotedLength? quotation.mark quotation.escapes
        (BodyUnit.body units ++ rest)
      = some ((BodyUnit.body units).length + length) := by
  induction units with
  | nil => simpa using closed
  | cons unit later induction =>
      have behind := induction readable.tail
      rw [BodyUnit.body_cons, List.append_assoc, List.length_append]
      by_cases doubled : unit = .doubled
      · subst doubled
        simp only [BodyUnit.text_doubled, List.cons_append, List.nil_append,
          quotedLength?, if_true, behind, Option.some.injEq, List.length_cons,
          List.length_nil]
        omega
      · have single := readable unit List.mem_cons_self
        rw [quotedLength?_unit _ single doubled, behind, Option.map_some,
          Option.some.injEq]
        omega

theorem quotedLength?_unclosed {units : List (BodyUnit quotation)} {rest : Text}
    (readable : BodyUnit.Readable units) (noDoubled : .doubled ∉ units)
    (unclosed : quotedLength? quotation.mark quotation.escapes rest = none) :
    quotedLength? quotation.mark quotation.escapes
      (BodyUnit.body units ++ rest) = none := by
  induction units with
  | nil => exact unclosed
  | cons unit later induction =>
      have single := Ne.symm (List.ne_of_not_mem_cons noDoubled)
      have behind := induction readable.tail
        (List.not_mem_of_not_mem_cons noDoubled)
      rw [BodyUnit.body_cons, List.append_assoc, quotedLength?_unit _
        (readable unit List.mem_cons_self) single, behind, Option.map_none]

theorem quotedLength?_feed {feed : BodyUnit quotation} (rest : Text)
    (isFeed : feed.isEscapedFeed = true) :
    quotedLength? quotation.mark quotation.escapes (feed.text ++ rest)
      = none := by
  cases feed with
  | plain char noMark noEscape => cases isFeed
  | escaped char escapes =>
      have same : char = .of '\n' := eq_of_beq isFeed
      have noMark := quotation.mark_ne_backslash.symm
      rw [BodyUnit.text, List.cons_append, quotedLength?.eq_def]
      simp [noMark, escapes, same]
  | doubled => cases isFeed

theorem lexemes_of_closed {units : List (BodyUnit quotation)} {rest : Text}
    (readable : BodyUnit.Readable units)
    (closes : quotedLength? quotation.mark quotation.escapes
      (quotation.mark :: rest) = some 1) :
    lexemes (quotation.mark
        :: (BodyUnit.body units ++ quotation.mark :: rest))
      = (Literal.mk quotation units).lexeme :: lexemes rest := by
  have closed := quotedLength?_body readable closes
  have divided : BodyUnit.body units ++ quotation.mark :: rest
      = (BodyUnit.body units ++ [quotation.mark]) ++ rest := by simp
  have length : (BodyUnit.body units).length + 1
      = (BodyUnit.body units ++ [quotation.mark]).length := by simp
  rw [divided, length] at closed
  rw [divided]
  apply lexemes_of_first
  rw [first_eq_read, quotation.starter_mark, Starter.read, quoted, closed]

theorem lexemes_of_unclosed {text : Text}
    (unclosed : quotedLength? quotation.mark quotation.escapes text = none) :
    lexemes (quotation.mark :: text)
      = ⟨.operator, [quotation.mark]⟩ :: lexemes text := by
  have found : first quotation.mark ([] ++ text) = (.operator, 0) := by
    rw [List.nil_append, first_eq_read, quotation.starter_mark, Starter.read,
      quoted, unclosed]
  exact lexemes_of_first found

variable {literal : Literal} {rest : Text}

theorem text_append (literal : Literal) (rest : Text) :
    literal.text ++ rest
      = literal.quotation.mark
        :: (BodyUnit.body literal.units ++ literal.quotation.mark :: rest) := by
  simp [Literal.text]

theorem lexemes_literal (readable : literal.Readable)
    (ends : rest.head? ≠ some literal.quotation.mark) :
    lexemes (literal.text ++ rest) = literal.lexeme :: lexemes rest := by
  rw [text_append]
  exact lexemes_of_closed readable (quotedLength?_closed ends)

theorem exists_lexemes_of_readAs {lexeme : Lexeme}
    (ends : rest.head? ≠ some literal.quotation.mark)
    (readAs : literal.ReadAs lexeme) :
    ∃ later, lexemes (literal.text ++ rest) = lexeme :: later := by
  cases readAs with
  | whole readable => exact ⟨_, lexemes_literal readable ends⟩
  | @cut before after back feed divided readable readableAfter noDoubled
      isFeed =>
      have noLater := quotedLength?_unclosed readableAfter noDoubled
        (quotedLength?_feed
          (BodyUnit.body back ++ literal.quotation.mark :: rest) isFeed)
      rw [text_append, divided, BodyUnit.body_append, BodyUnit.body_cons,
        BodyUnit.body_append, BodyUnit.body_cons]
      simp only [BodyUnit.text_doubled, List.append_assoc, List.cons_append,
        List.nil_append]
      refine ⟨_, lexemes_of_closed readable ?_⟩
      simp [quotedLength?, noLater]
  | @unopened front back feed divided readable noDoubled isFeed =>
      have noEnd := quotedLength?_unclosed readable noDoubled
        (quotedLength?_feed
          (BodyUnit.body back ++ literal.quotation.mark :: rest) isFeed)
      rw [text_append, divided, BodyUnit.body_append, BodyUnit.body_cons,
        List.append_assoc, List.append_assoc]
      exact ⟨_, lexemes_of_unclosed noEnd⟩

end Lexeme

namespace Literal

theorem exists_readAs (literal : Literal) :
    ∃ lexeme, literal.ReadAs lexeme := by
  by_cases readable : literal.Readable
  · exact ⟨_, .whole readable⟩
  · have found : ∃ unit ∈ literal.units, unit.isEscapedFeed = true := by
      simpa [Readable, BodyUnit.Readable] using readable
    obtain ⟨feed, first⟩ :=
      Option.isSome_iff_exists.mp (List.find?_isSome.mpr found)
    obtain ⟨isFeed, front, back, divided, earlier⟩ :=
      List.find?_eq_some_iff_append.mp first
    have frontReadable : BodyUnit.Readable front := by
      simpa [BodyUnit.Readable] using earlier
    by_cases doubled : .doubled ∈ front
    · -- The last doubled quote is the first one from behind.
      obtain ⟨after, before, whole, noDoubled⟩ :=
        List.eq_append_cons_of_mem (List.mem_reverse.mpr doubled)
      have parts : front = before.reverse ++ .doubled :: after.reverse := by
        rw [← List.reverse_reverse front, whole]
        simp
      have readableParts := List.forall_mem_append.mp (parts ▸ frontReadable)
      have units : literal.units
          = before.reverse ++ .doubled :: (after.reverse ++ feed :: back) := by
        rw [divided, parts]
        simp
      have single : .doubled ∉ after.reverse := by simpa using noDoubled
      exact ⟨_, .cut units readableParts.1
        (List.forall_mem_cons.mp readableParts.2).2 single isFeed⟩
    · exact ⟨_, .unopened divided frontReadable doubled isFeed⟩

/-- Only a literal without backslashes in front of line feeds is read as a
whole. -/
theorem readAs_lexeme_iff {literal : Literal} :
    literal.ReadAs literal.lexeme ↔ literal.Readable := by
  constructor
  · intro readAs
    generalize same : literal.lexeme = lexeme at readAs
    cases readAs with
    | whole readable => exact readable
    | cut divided readable readableAfter noDoubled isFeed =>
        have lengths := congrArg (fun read => read.text.length) same
        simp only [lexeme, text, divided, BodyUnit.body_append,
          BodyUnit.body_cons, BodyUnit.text_doubled, List.length_append,
          List.length_cons] at lengths
        omega
    | unopened divided readable noDoubled isFeed =>
        have kinds := congrArg Lexeme.kind same
        exact absurd kinds literal.quotation.kind_ne_operator
  · exact .whole

theorem isKept_of_readAs {literal : Literal} {lexeme : Lexeme}
    (readAs : literal.ReadAs lexeme) (keepBreaks : Bool) :
    Token.isKept keepBreaks lexeme.kind = true := by
  cases readAs with
  | whole readable => exact literal.quotation.isKept_kind keepBreaks
  | cut divided readable readableAfter noDoubled isFeed =>
      exact literal.quotation.isKept_kind keepBreaks
  | unopened divided readable noDoubled isFeed =>
      cases keepBreaks <;> rfl

end Literal

/-- The lexeme as a token at the given place. -/
def Lexeme.tokenAt (lexeme : Lexeme) (place : Place) : Token :=
  ⟨lexeme.kind, lexeme.text, place⟩

namespace Token

/-- The second token is the first one, further on by some characters. -/
structure MovedBy (count : Nat) (token other : Token) : Prop where
  kind : other.kind = token.kind
  text : other.text = token.text
  offset : other.offset = token.offset + count

theorem placed_movedBy {count : Nat} {place other : Place}
    (offset : other.offset = place.offset + count) (lexemes : List Lexeme) :
    List.Forall₂ (MovedBy count) (placed place lexemes)
      (placed other lexemes) := by
  induction lexemes generalizing place other with
  | nil => exact .cons ⟨rfl, rfl, offset⟩ .nil
  | cons lexeme rest induction =>
      refine .cons ⟨rfl, rfl, offset⟩ (induction ?_)
      rw [Place.offset_after, Place.offset_after, offset]
      exact Nat.add_right_comm _ _ _

theorem tokenize_of_lexemes {text : Text} {lexeme : Lexeme}
    {later : List Lexeme} {keepBreaks : Bool}
    (divided : lexemes text = lexeme :: later)
    (kept : isKept keepBreaks lexeme.kind = true) :
    tokenize keepBreaks text = lexeme.tokenAt .start
      :: (placed (Place.start.after lexeme) later).filter fun token =>
        isKept keepBreaks token.kind := by
  rw [tokenize_eq, divided, placed, List.filter_cons, if_pos kept]
  rfl

/-- Behind a lexeme the tokens are those of the rest, further on. -/
theorem movedBy_tokenize (lexeme : Lexeme) (rest : Text) (keepBreaks : Bool) :
    List.Forall₂ (MovedBy lexeme.text.length) (tokenize keepBreaks rest)
      ((placed (Place.start.after lexeme) (lexemes rest)).filter fun token =>
        isKept keepBreaks token.kind) := by
  rw [tokenize_eq]
  refine List.rel_filter ?_ (placed_movedBy ?_ (lexemes rest))
  · intro token other moved
    simp only [moved.kind]
  · rw [Place.offset_after]

end Token

namespace Literal

/-- How a text that begins with the literal is read: the literal is the first
token exactly if no backslash in it stands in front of a line feed.  The other
tokens are then those of the rest, further on, and the literal neither ends a
declaration nor changes how deep what follows it stands.  Otherwise the literal
is cut short as `ReadAs` says. -/
structure ReadBefore (keepBreaks : Bool) (rest : Text) (literal : Literal) :
    Prop where
  whole : literal.Readable
    ↔ ∃ later, Token.tokenize keepBreaks (literal.text ++ rest)
      = literal.lexeme.tokenAt .start :: later
  behind : ∀ later, Token.tokenize keepBreaks (literal.text ++ rest)
      = literal.lexeme.tokenAt .start :: later →
    List.Forall₂ (Token.MovedBy literal.text.length)
      (Token.tokenize keepBreaks rest) later
  undivided : ∀ place depth tokens,
    Block.pieces depth (literal.lexeme.tokenAt place :: tokens)
      = (literal.lexeme.tokenAt place :: (Block.pieces depth tokens).1,
        (Block.pieces depth tokens).2)
  listed : ∃ lexeme, literal.ReadAs lexeme
  first : ∀ lexeme, literal.ReadAs lexeme →
    (Token.tokenize keepBreaks (literal.text ++ rest)).head?
      = some (lexeme.tokenAt .start)

/-- A literal belongs to the piece of a block that it stands in, whatever its
text, and what follows it stands as deep as it does. -/
theorem pieces_lexeme (literal : Literal) (place : Place) (depth : Int)
    (tokens : List Token) :
    Block.pieces depth (literal.lexeme.tokenAt place :: tokens)
      = (literal.lexeme.tokenAt place :: (Block.pieces depth tokens).1,
        (Block.pieces depth tokens).2) := by
  obtain ⟨quotation, units⟩ := literal
  cases quotation <;>
    simp [Block.pieces, Block.separates, Block.step, lexeme, Lexeme.tokenAt,
      Quotation.kind]

variable {literal : Literal} {lexeme : Lexeme} {rest : Text}
  (ends : rest.head? ≠ some literal.quotation.mark) (keepBreaks : Bool)

include ends

theorem tokenize_of_readAs (readAs : literal.ReadAs lexeme) :
    (Token.tokenize keepBreaks (literal.text ++ rest)).head?
      = some (lexeme.tokenAt .start) := by
  obtain ⟨later, divided⟩ := Lexeme.exists_lexemes_of_readAs ends readAs
  rw [Token.tokenize_of_lexemes divided (isKept_of_readAs readAs keepBreaks)]
  rfl

theorem readable_iff_tokenize :
    literal.Readable
      ↔ ∃ later, Token.tokenize keepBreaks (literal.text ++ rest)
        = literal.lexeme.tokenAt .start :: later := by
  constructor
  · intro readable
    exact List.head?_eq_some_iff.mp
      (tokenize_of_readAs ends keepBreaks (.whole readable))
  · rintro ⟨later, first⟩
    obtain ⟨found, readAs⟩ := literal.exists_readAs
    have head := tokenize_of_readAs ends keepBreaks readAs
    rw [first, List.head?_cons, Option.some.injEq] at head
    have same : literal.lexeme = found := by
      cases found
      cases head
      rfl
    rw [← same] at readAs
    exact readAs_lexeme_iff.mp readAs

/-- A literal whose quote does not go on behind it is one token, unless a
backslash in it stands in front of a line feed. -/
theorem readBefore_of_ends : literal.ReadBefore keepBreaks rest where
  whole := readable_iff_tokenize ends keepBreaks
  behind := by
    intro later first
    have readable := (readable_iff_tokenize ends keepBreaks).mpr ⟨later, first⟩
    have made := Token.tokenize_of_lexemes
      (Lexeme.lexemes_literal readable ends)
      (literal.quotation.isKept_kind keepBreaks)
    rw [← (List.cons.inj (made.symm.trans first)).2]
    exact Token.movedBy_tokenize literal.lexeme rest keepBreaks
  undivided := literal.pieces_lexeme
  listed := literal.exists_readAs
  first := fun _ => tokenize_of_readAs ends keepBreaks

omit ends

/-- A parenthesis, an escaped quote, a doubled quote, a comma and a line feed in
single quotes. -/
def mixed : Literal where
  quotation := .single
  units :=
    [.plain '(' (by decide) (by decide), .escaped '\'' rfl, .doubled,
      .plain ',' (by decide) (by decide), .plain '\n' (by decide) (by decide)]

theorem readBefore_of_ends_mixed :
    (", b" : Text).head? ≠ some mixed.quotation.mark ∧ mixed.Readable
      ∧ mixed.ReadBefore true ", b" := by
  have ends : (", b" : Text).head? ≠ some mixed.quotation.mark := by decide
  exact ⟨ends, by decide, readBefore_of_ends ends true⟩

example : (lexemes "'\\\n'").map Lexeme.kind
    = [.operator, .operator, .lineBreak, .operator] := by
  decide +kernel

end Literal

end SchemaSheet
