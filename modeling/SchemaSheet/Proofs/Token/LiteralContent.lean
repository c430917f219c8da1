import SchemaSheet.Proofs.Token.Line
import SchemaSheet.Proofs.Token.Literal

/-!
# Contents of literals

Every token in quotes is a literal, in one way only.  Its content is found by
two replacements, first of doubled quotes and then of quotes behind backslashes.
`exists_literal_of_mem_tokenize` says that this is what the units of the literal
stand for, but for a pair of backslashes directly in front of a doubled quote:
the quote that is left there takes the second of them away.
-/

namespace SchemaSheet

/-- Tokens of these kinds are in quotes. -/
def Kind.isQuoted (kind : Kind) : Bool :=
  kind == .quotedText || kind == .quotedName

namespace BodyUnit

variable {quotation : Quotation}

/-- What the unit stands for.  A doubled quote and a quote behind a backslash
stand for the quote, and every other unit stands for itself. -/
def value : BodyUnit quotation → Text
  | plain char _ _ => [char]
  | escaped char _ =>
      if char = quotation.mark then [quotation.mark] else [.of '\\', char]
  | doubled => [quotation.mark]

/-- The unit is a backslash behind another one. -/
def isPair : BodyUnit quotation → Bool
  | escaped char _ => char == .of '\\'
  | _ => false

def isDoubled : BodyUnit quotation → Bool
  | doubled => true
  | _ => false

/-- The first unit is a pair of backslashes, and the second one is a doubled
quote. -/
def losesHere (unit : BodyUnit quotation)
    (rest : List (BodyUnit quotation)) : Bool :=
  unit.isPair && rest.head?.any isDoubled

/-- A pair of backslashes stands directly in front of a doubled quote. -/
def LosesBackslash (units : List (BodyUnit quotation)) : Prop :=
  ∃ pair, isPair pair = true ∧ [pair, doubled] <:+: units

/-- What the two replacements leave of a body. -/
def content : List (BodyUnit quotation) → Text
  | [] => []
  | unit :: rest =>
      (if unit.losesHere rest then [.of '\\'] else unit.value) ++ content rest

/-- What the first replacement leaves of the unit. -/
def halved : BodyUnit quotation → Text
  | plain char _ _ => [char]
  | escaped char _ => [.of '\\', char]
  | doubled => [quotation.mark]

theorem replacePair_mark_cons {rest : Text}
    (ends : rest.head? ≠ some quotation.mark) :
    Text.replacePair quotation.mark quotation.mark quotation.mark
        (quotation.mark :: rest)
      = quotation.mark :: Text.replacePair quotation.mark quotation.mark
        quotation.mark rest :=
  Text.replacePair_cons_of_head? fun _ => ends

/-- Doubled quotes become single, also where the quote behind a backslash stands
in front of them. -/
theorem replacePair_body (units : List (BodyUnit quotation)) :
    Text.replacePair quotation.mark quotation.mark quotation.mark (body units)
        = units.flatMap halved
      ∧ Text.replacePair quotation.mark quotation.mark quotation.mark
          (quotation.mark :: body units)
        = quotation.mark :: units.flatMap halved := by
  have noBackslash := quotation.mark_ne_backslash
  induction units with
  | nil => exact ⟨rfl, rfl⟩
  | cons unit rest induction =>
      obtain ⟨behind, behindMark⟩ := induction
      rw [body_cons, List.flatMap_cons]
      cases unit with
      | plain char noMark noEscape =>
          have here : Text.replacePair quotation.mark quotation.mark
              quotation.mark (char :: body rest)
              = char :: rest.flatMap halved := by
            rw [Text.replacePair_cons_of_ne noMark, behind]
          refine ⟨here, ?_⟩
          rw [replacePair_mark_cons (by simpa [text] using noMark)]
          exact congrArg _ here
      | escaped char escapes =>
          have here : Text.replacePair quotation.mark quotation.mark
              quotation.mark (char :: body rest)
              = char :: rest.flatMap halved := by
            by_cases isMark : char = quotation.mark
            · rw [isMark]
              exact behindMark
            · rw [Text.replacePair_cons_of_ne isMark, behind]
          have whole : Text.replacePair quotation.mark quotation.mark
              quotation.mark (.of '\\' :: char :: body rest)
              = .of '\\' :: char :: rest.flatMap halved := by
            rw [Text.replacePair_cons_of_ne noBackslash.symm, here]
          refine ⟨whole, ?_⟩
          rw [replacePair_mark_cons (by simpa [text] using noBackslash.symm)]
          exact congrArg _ whole
      | doubled =>
          have pair : ∀ later, Text.replacePair quotation.mark quotation.mark
              quotation.mark (quotation.mark :: quotation.mark :: later)
              = quotation.mark :: Text.replacePair quotation.mark
                quotation.mark quotation.mark later := by
            intro later
            rw [Text.replacePair, if_pos ⟨rfl, rfl⟩]
          simp only [text_doubled, halved, List.cons_append, List.nil_append,
            pair, behind, behindMark, and_self]

theorem head?_flatMap_halved (units : List (BodyUnit quotation)) :
    (units.flatMap halved).head? = some quotation.mark
      ↔ units.head?.any isDoubled = true := by
  cases units with
  | nil => simp
  | cons unit rest =>
      cases unit with
      | plain char noMark noEscape => simpa [halved, isDoubled] using noMark
      | escaped char escapes =>
          simpa [halved, isDoubled] using quotation.mark_ne_backslash.symm
      | doubled => simp [halved, isDoubled]

/-- A backslash that stands by itself behind another one is lost in front of a
quote. -/
theorem replacePair_backslash_halved (rest : List (BodyUnit quotation)) :
    Text.replacePair (.of '\\') quotation.mark quotation.mark
        (.of '\\' :: rest.flatMap halved)
      = (if rest.head?.any isDoubled then [] else [.of '\\'])
        ++ Text.replacePair (.of '\\') quotation.mark quotation.mark
          (rest.flatMap halved) := by
  cases next : rest.head?.any isDoubled with
  | true =>
      obtain ⟨later, behind⟩ :=
        List.head?_eq_some_iff.mp ((head?_flatMap_halved rest).mpr next)
      rw [behind, Text.replacePair, if_pos ⟨rfl, rfl⟩,
        Text.replacePair_cons_of_ne quotation.mark_ne_backslash]
      rfl
  | false =>
      have apart : (rest.flatMap halved).head? ≠ some quotation.mark := by
        rw [Ne, head?_flatMap_halved, next]
        exact Bool.false_ne_true
      exact Text.replacePair_cons_of_head? fun _ => apart

/-- The second replacement takes away the backslashes in front of quotes that
the first one left. -/
theorem replacePair_flatMap_halved (escapes : quotation.escapes = true)
    (units : List (BodyUnit quotation)) :
    Text.replacePair (.of '\\') quotation.mark quotation.mark
        (units.flatMap halved)
      = content units := by
  have noBackslash := quotation.mark_ne_backslash
  induction units with
  | nil => rfl
  | cons unit rest induction =>
      rw [List.flatMap_cons, content]
      cases unit with
      | plain char noMark noEscape =>
          rw [halved, List.cons_append, List.nil_append,
            Text.replacePair_cons_of_ne (noEscape escapes), induction]
          rfl
      | doubled =>
          rw [halved, List.cons_append, List.nil_append,
            Text.replacePair_cons_of_ne noBackslash, induction]
          rfl
      | escaped char allowed =>
          rw [halved, List.cons_append, List.cons_append, List.nil_append]
          by_cases isMark : char = quotation.mark
          · subst isMark
            have single : losesHere (.escaped quotation.mark allowed) rest
                = false := by
              simp [losesHere, isPair, noBackslash]
            rw [Text.replacePair, if_pos ⟨rfl, rfl⟩, induction, single]
            simp [value]
          · rw [Text.replacePair, if_neg fun both => isMark both.2]
            by_cases pair : char = .of '\\'
            · subst pair
              rw [replacePair_backslash_halved rest, induction]
              cases next : rest.head?.any isDoubled with
              | true => simp [losesHere, isPair, next]
              | false => simp [losesHere, isPair, next, value, isMark]
            · have single : losesHere (.escaped char allowed) rest = false := by
                simp [losesHere, isPair, pair]
              rw [Text.replacePair_cons_of_ne pair, induction, single]
              simp [value, isMark]

theorem flatMap_halved_of_not_escapes (escapes : quotation.escapes = false)
    (units : List (BodyUnit quotation)) :
    units.flatMap halved = content units := by
  induction units with
  | nil => rfl
  | cons unit rest induction =>
      rw [List.flatMap_cons, content, induction]
      cases unit with
      | plain char noMark noEscape => rfl
      | escaped char allowed => simp [escapes] at allowed
      | doubled => rfl

theorem unescape_body (units : List (BodyUnit quotation)) :
    Text.unescape quotation.mark (body units) = content units := by
  rw [Text.unescape, (replacePair_body units).1]
  cases escapes : quotation.escapes with
  | true =>
      have notBack : quotation.mark ≠ backquote := by
        cases quotation with
        | single | double => decide
        | back => cases escapes
      rw [if_neg notBack, replacePair_flatMap_halved escapes]
  | false =>
      have back : quotation.mark = backquote := by
        cases quotation with
        | single | double => cases escapes
        | back => rfl
      rw [if_pos back, flatMap_halved_of_not_escapes escapes]

theorem value_of_isPair {unit : BodyUnit quotation}
    (pair : unit.isPair = true) : unit.value = [.of '\\', .of '\\'] := by
  cases unit with
  | plain char noMark noEscape => cases pair
  | escaped char escapes =>
      have same : char = .of '\\' := eq_of_beq pair
      rw [value, same, if_neg quotation.mark_ne_backslash.symm]
  | doubled => cases pair

theorem losesBackslash_cons_iff {unit : BodyUnit quotation}
    {rest : List (BodyUnit quotation)} :
    LosesBackslash (unit :: rest)
      ↔ unit.losesHere rest = true ∨ LosesBackslash rest := by
  have here : unit.losesHere rest = true
      ↔ ∃ pair, isPair pair = true ∧ [pair, doubled] <+: unit :: rest := by
    constructor
    · intro loses
      obtain ⟨pair, next⟩ := Bool.and_eq_true_iff.mp loses
      match rest, next with
      | .doubled :: later, _ => exact ⟨unit, pair, later, rfl⟩
    · rintro ⟨pair, isPair, later, divided⟩
      obtain ⟨rfl, rfl⟩ := List.cons.inj divided
      simp [losesHere, isPair, isDoubled]
  simp only [LosesBackslash, List.infix_cons_iff, and_or_left, exists_or, here]

theorem length_content_le (units : List (BodyUnit quotation)) :
    (content units).length ≤ (units.flatMap value).length := by
  induction units with
  | nil => exact Nat.le_refl _
  | cons unit rest induction =>
      have positive : 0 < unit.value.length := by
        cases unit <;> simp only [value] <;> try split
        all_goals simp
      rw [content, List.flatMap_cons, List.length_append, List.length_append]
      split
      · rw [List.length_singleton]
        omega
      · omega

/-- The replacements leave what the units stand for, unless one of them loses a
backslash. -/
theorem content_eq_value_iff (units : List (BodyUnit quotation)) :
    content units = units.flatMap value ↔ ¬LosesBackslash units := by
  induction units with
  | nil => simp [content, LosesBackslash]
  | cons unit rest induction =>
      rw [content, List.flatMap_cons, losesBackslash_cons_iff]
      cases loses : unit.losesHere rest with
      | false => simp [induction]
      | true =>
          have shorter := length_content_le rest
          have pair := value_of_isPair (Bool.and_eq_true_iff.mp loses).1
          simp only [if_true, pair, true_or, not_true_eq_false, iff_false]
          intro same
          have lengths := congrArg List.length same
          simp only [List.length_append, List.length_cons,
            List.length_nil] at lengths
          omega

end BodyUnit

namespace Literal

/-- What the literal stands for. -/
def value (literal : Literal) : Text :=
  literal.units.flatMap BodyUnit.value

theorem unquote_text (literal : Literal) :
    Text.unquote literal.text = BodyUnit.content literal.units := by
  have isQuoted : isQuote literal.quotation.mark = true
      ∧ (BodyUnit.body literal.units ++ [literal.quotation.mark]).getLast?
        = some literal.quotation.mark :=
    ⟨literal.quotation.isQuote_mark, List.getLast?_concat⟩
  rw [text, Text.unquote, if_pos isQuoted, List.dropLast_concat,
    BodyUnit.unescape_body]

/-- The token is the literal, which it is in no other way, and its content is
what the literal stands for, but for backslashes that are lost. -/
structure IsToken (token : Token) (literal : Literal) : Prop where
  readable : literal.Readable
  kind : token.kind = literal.quotation.kind
  text : token.text = literal.text
  only : ∀ other : Literal, token.text = other.text → other = literal
  content : token.content = BodyUnit.content literal.units
  decoded : token.content = literal.value
    ↔ ¬BodyUnit.LosesBackslash literal.units

theorem isToken_of_text {token : Token} {literal : Literal}
    (readable : literal.Readable) (kind : token.kind = literal.quotation.kind)
    (text : token.text = literal.text) : literal.IsToken token := by
  have content : token.content = BodyUnit.content literal.units := by
    rw [Token.content, text, unquote_text]
  refine ⟨readable, kind, text, ?_, content, ?_⟩
  · intro other same
    exact text_injective (same.symm.trans text)
  · rw [content]
    exact BodyUnit.content_eq_value_iff literal.units

end Literal

namespace Lexeme

variable {quotation : Quotation}

theorem exists_units_of_quotedLength? {text : Text} {length : Nat}
    (closed : quotedLength? quotation.mark quotation.escapes text
      = some length) :
    ∃ units : List (BodyUnit quotation), BodyUnit.Readable units
      ∧ text.take length = BodyUnit.body units ++ [quotation.mark] := by
  induction text using quotedLength?.induct quotation.mark quotation.escapes
    generalizing length with
  | case1 => cases closed
  | case2 =>
      simp only [quotedLength?, if_true, Option.some.injEq] at closed
      exact ⟨[], List.forall_mem_nil _, by rw [← closed]; rfl⟩
  | case3 later inner found induction =>
      simp only [quotedLength?, found, if_true, Option.some.injEq] at closed
      obtain ⟨units, readable, taken⟩ := induction found
      refine ⟨.doubled :: units, List.forall_mem_cons.mpr ⟨rfl, readable⟩, ?_⟩
      rw [← closed, List.take_succ_cons, List.take_succ_cons, taken]
      rfl
  | case4 later found induction =>
      simp only [quotedLength?, found, if_true, Option.some.injEq] at closed
      exact ⟨[], List.forall_mem_nil _, by rw [← closed]; rfl⟩
  | case5 next later other =>
      simp only [quotedLength?, other, if_true, if_false,
        Option.some.injEq] at closed
      exact ⟨[], List.forall_mem_nil _, by rw [← closed]; rfl⟩
  | case6 char other escaped =>
      simp [quotedLength?, other, escaped] at closed
  | case7 char other escaped later =>
      simp [quotedLength?, other, escaped] at closed
  | case8 char other escaped next later inLine induction =>
      rw [quotedLength?_escaped other escaped inLine] at closed
      obtain ⟨inner, innerClosed, rfl⟩ := Option.map_eq_some_iff.mp closed
      obtain ⟨units, readable, taken⟩ := induction innerClosed
      obtain ⟨escapes, backslash⟩ := Bool.and_eq_true_iff.mp escaped
      refine ⟨.escaped next escapes :: units,
        List.forall_mem_cons.mpr ⟨?_, readable⟩, ?_⟩
      · simpa [BodyUnit.isEscapedFeed] using inLine
      · rw [List.take_succ_cons, List.take_succ_cons, taken,
          eq_of_beq backslash]
        rfl
  | case9 char rest other plain induction =>
      have plain := Bool.eq_false_iff.mpr plain
      rw [quotedLength?_plain rest other plain] at closed
      obtain ⟨inner, innerClosed, rfl⟩ := Option.map_eq_some_iff.mp closed
      obtain ⟨units, readable, taken⟩ := induction innerClosed
      have noEscape : quotation.escapes = true → char ≠ .of '\\' := by
        intro escapes
        simpa [escapes] using plain
      refine ⟨.plain char other noEscape :: units,
        List.forall_mem_cons.mpr ⟨rfl, readable⟩, ?_⟩
      rw [List.take_succ_cons, taken]
      rfl

/-- Where a lexeme begins with a quote, the quote decides how it is read. -/
theorem Starter.exists_quotation {char : Character} {kind : Kind}
    {escapes : Bool} (opens : Starter.of char = .quote kind escapes) :
    ∃ quotation : Quotation, char = quotation.mark ∧ kind = quotation.kind
      ∧ escapes = quotation.escapes := by
  have described := describes_of char
  rw [opens] at described
  have isMark : ∃ quotation : Quotation, char = quotation.mark := by
    have isQuoteChar := described.1
    simp only [isQuote, Bool.or_eq_true, beq_iff_eq] at isQuoteChar
    rcases isQuoteChar with (back | double) | single
    · exact ⟨.back, back⟩
    · exact ⟨.double, double⟩
    · exact ⟨.single, single⟩
  obtain ⟨quotation, rfl⟩ := isMark
  rw [quotation.starter_mark] at opens
  cases opens
  exact ⟨quotation, rfl, rfl, rfl⟩

/-- The lexeme is in quotes only if it begins with one. -/
def Starter.Bare : Starter → Prop
  | alone kind => kind.isQuoted = false
  | _ => True

theorem Starter.Sorted.bare {starter : Starter} (sorted : starter.Sorted) :
    starter.Bare := by
  cases starter with
  | alone kind =>
      have unquoted : ∀ kind ∈ loneKinds, kind.isQuoted = false := by decide
      exact unquoted kind sorted
  | _ => exact trivial

theorem Starter.isQuoted_read {starter : Starter} {char : Character}
    {text : Text} (bare : starter.Bare)
    (other : ∀ kind escapes, starter ≠ .quote kind escapes) :
    (starter.read char text).1.isQuoted = false := by
  cases starter with
  | dash =>
      rw [read]
      split
      · rfl
      · rfl
  | slash => rcases kind_slash text with same | same <;> rw [read, same] <;> rfl
  | hash | carriageReturn | blank | letter => rfl
  | quote kind escapes => exact absurd rfl (other kind escapes)
  | digit =>
      rcases kind_numeral text with same | same <;> rw [read, same] <;> rfl
  | alone kind => exact bare

theorem exists_literal_of_first {char : Character} {text : Text}
    (isQuoted : (first char text).1.isQuoted = true) :
    ∃ literal : Literal, literal.Readable
      ∧ (first char text).1 = literal.quotation.kind
      ∧ char :: text.take (first char text).2 = literal.text := by
  have opens : ∃ kind escapes, Starter.of char = .quote kind escapes := by
    by_contra other
    simp only [not_exists] at other
    have bare : ((Starter.of char).read char text).1.isQuoted = false :=
      Starter.isQuoted_read (Starter.sorted_of char).bare other
    rw [← first_eq_read, isQuoted] at bare
    cases bare
  obtain ⟨kind, escapes, opens⟩ := opens
  obtain ⟨quotation, rfl, rfl, rfl⟩ := Starter.exists_quotation opens
  rw [first_eq_read, opens, Starter.read, quoted] at isQuoted ⊢
  cases closed : quotedLength? quotation.mark quotation.escapes text with
  | none =>
      rw [closed] at isQuoted
      cases isQuoted
  | some length =>
      obtain ⟨units, readable, taken⟩ := exists_units_of_quotedLength? closed
      refine ⟨⟨quotation, units⟩, readable, rfl, ?_⟩
      rw [taken]
      rfl

end Lexeme

namespace Token

theorem exists_lexeme_of_mem_tokenize {keepBreaks : Bool} {text : Text}
    {token : Token} (member : token ∈ tokenize keepBreaks text)
    (proper : token.kind ≠ .endOfText) :
    ∃ lexeme ∈ lexemes text, token.kind = lexeme.kind
      ∧ token.text = lexeme.text := by
  obtain ⟨front, lexeme, later, divided, rfl⟩ :=
    exists_readBehind member proper
  exact ⟨lexeme, by simp [divided], rfl, rfl⟩

/-- A token in quotes is exactly one literal, and its content is what the
literal stands for, unless a pair of backslashes in it stands directly in front
of a doubled quote. -/
theorem exists_literal_of_mem_tokenize {keepBreaks : Bool} {text : Text}
    {token : Token} (member : token ∈ tokenize keepBreaks text)
    (isQuoted : token.kind.isQuoted = true) :
    ∃ literal : Literal, literal.IsToken token := by
  have proper : token.kind ≠ .endOfText := by
    intro isEnd
    rw [isEnd] at isQuoted
    cases isQuoted
  obtain ⟨lexeme, inside, kind, same⟩ :=
    exists_lexeme_of_mem_tokenize member proper
  obtain ⟨char, rest, rfl⟩ := Lexeme.exists_first_of_mem_lexemes inside
  rw [kind] at isQuoted
  obtain ⟨literal, readable, literalKind, literalText⟩ :=
    Lexeme.exists_literal_of_first isQuoted
  exact ⟨literal, Literal.isToken_of_text readable (kind.trans literalKind)
    (same.trans literalText)⟩

/-- A text in single quotes, with a pair of backslashes in front of a doubled
quote. -/
def pairText : Text := "'b\\\\''c'"

def pairToken : Token := ⟨.quotedText, pairText, ⟨1, 3, 2⟩⟩

theorem exists_literal_of_mem_tokenize_pair :
    pairToken ∈ tokenize true ("a " ++ pairText)
      ∧ pairToken.kind.isQuoted = true
      ∧ ∃ literal : Literal, literal.IsToken pairToken := by
  have member : pairToken ∈ tokenize true ("a " ++ pairText) := by
    decide +kernel
  exact ⟨member, rfl, exists_literal_of_mem_tokenize member rfl⟩

example : pairToken.content = "b\\'c" := by decide

end Token

end SchemaSheet
