import Mathlib.Data.List.Chain
import SchemaSheet.Proofs.Token.Placement
import SchemaSheet.Proofs.Token.Words

/-!
# What tokens leave out

The tokens of a text are pieces of it, in the order of the text.  What stands
between two of them is blank or a comment, or a line break where these are not
kept.  `Token.Accounts` follows a text from its front to its end, and
`covers_tokenize` says what can be read off it.
-/

namespace SchemaSheet

/-- The text is a comment in front of `rest`.  A comment on a line takes all
that is left of the line, and another one ends at the first `*/`. -/
inductive IsComment (rest : Text) : Text → Prop where
  | dashes {body : Text}
      (inLine : ∀ char ∈ body, Lexeme.isInLine char = true)
      (ends : rest.head?.any Lexeme.isInLine = false) :
      IsComment rest (.of '-' :: .of '-' :: body)
  | hash {body : Text}
      (inLine : ∀ char ∈ body, Lexeme.isInLine char = true)
      (ends : rest.head?.any Lexeme.isInLine = false) :
      IsComment rest (.of '#' :: body)
  | block {body : Text} (unclosed : ¬[.of '*', .of '/'] <:+: body) :
      IsComment rest (.of '/' :: .of '*' :: (body ++ [.of '*', .of '/']))

/-- The ways in which a line can end. -/
def lineBreaks : List Text :=
  [[.of '\r', .of '\n'], [.of '\r'], [.of '\n']]

/-- The text leaves no token in front of `rest`: it consists of blanks, of
comments and, unless they are kept, of line breaks. -/
inductive Silent (keepBreaks : Bool) (rest : Text) : Text → Prop where
  | nil : Silent keepBreaks rest []
  | blanks {run later : Text}
      (blank : ∀ char ∈ run, Lexeme.isLineBlank char = true)
      (goesOn : Silent keepBreaks rest later) :
      Silent keepBreaks rest (run ++ later)
  | comment {comment later : Text}
      (isComment : IsComment (later ++ rest) comment)
      (goesOn : Silent keepBreaks rest later) :
      Silent keepBreaks rest (comment ++ later)
  | lineBreak {mark later : Text} (dropped : keepBreaks = false)
      (isBreak : mark ∈ lineBreaks) (goesOn : Silent keepBreaks rest later) :
      Silent keepBreaks rest (mark ++ later)

namespace Lexeme

/-- What a lexeme that may be left out looks like in front of `rest`. -/
def Shaped (rest : Text) (lexeme : Lexeme) : Prop :=
  match lexeme.kind with
  | .blank => ∀ char ∈ lexeme.text, isLineBlank char = true
  | .comment => IsComment rest lexeme.text
  | .lineBreak => lexeme.text ∈ lineBreaks
  | .endOfText => False
  | _ => True

theorem Shaped.proper {rest : Text} {lexeme : Lexeme}
    (shaped : lexeme.Shaped rest) : lexeme.kind ≠ .endOfText := by
  intro isEnd
  rw [Shaped, isEnd] at shaped
  exact shaped

theorem head?_drop_runLength (accepts : Character → Bool) (text : Text) :
    (text.drop (runLength accepts text)).head?.any accepts = false := by
  induction text with
  | nil => rfl
  | cons char text induction =>
      cases accepted : accepts char with
      | false => simp [runLength, accepted]
      | true => simpa [runLength, accepted] using induction

theorem isInLine_of_mem_run (text : Text) :
    ∀ char ∈ text.take (runLength isInLine text), isInLine char = true := by
  rw [take_runLength]
  intro char
  exact List.mem_takeWhile_imp

theorem isComment_dashes {text : Text} (second : text.head? = some (.of '-')) :
    IsComment (text.drop (runLength isInLine text))
      (.of '-' :: text.take (runLength isInLine text)) := by
  have ends := head?_drop_runLength isInLine text
  have inLine := isInLine_of_mem_run text
  obtain ⟨later, rfl⟩ := List.head?_eq_some_iff.mp second
  have length : runLength isInLine (.of '-' :: later)
      = runLength isInLine later + 1 := by
    have dash : isInLine (.of '-') = true := rfl
    simp [runLength, dash]
  rw [length, List.take_succ_cons] at inLine
  rw [length, List.take_succ_cons]
  rw [length] at ends
  exact .dashes (fun char member => inLine char (List.mem_cons_of_mem _ member))
    ends

/-- A block comment ends where its mark stands first. -/
theorem exists_body_of_blockComment {text : Text} {length : Nat}
    (closed : blockCommentLength? text = some length) :
    ∃ body, text.take length = body ++ [.of '*', .of '/']
      ∧ ¬[.of '*', .of '/'] <:+: body := by
  induction text using blockCommentLength?.induct generalizing length with
  | case1 => cases closed
  | case2 rest =>
      cases closed
      exact ⟨[], rfl, by decide⟩
  | case3 char rest onward induction =>
      rw [blockCommentLength?.eq_3 _ _ onward] at closed
      obtain ⟨inner, innerClosed, rfl⟩ := Option.map_eq_some_iff.mp closed
      obtain ⟨body, taken, unclosed⟩ := induction innerClosed
      refine ⟨char :: body, by rw [List.take_succ_cons, taken]; rfl, ?_⟩
      intro inside
      rcases List.infix_cons_iff.mp inside with front | later
      · obtain ⟨star, tail, same⟩ := List.cons_prefix_cons.mp front
        have whole := List.take_append_drop inner rest
        rw [taken, ← same] at whole
        exact onward _ star.symm whole.symm
      · exact unclosed later

/-- What is read behind `char` is a lexeme that looks like its kind. -/
def Fits (char : Character) (text : Text) (found : Kind × Nat) : Prop :=
  Shaped (text.drop found.2) ⟨found.1, char :: text.take found.2⟩

theorem fits_slash (text : Text) : Fits (.of '/') text (slash text) := by
  unfold slash
  split
  case _ rest =>
    split
    case _ length closed =>
      obtain ⟨body, taken, unclosed⟩ := exists_body_of_blockComment closed
      have isBlock : IsComment (rest.drop length) _ := .block unclosed
      rw [← taken] at isBlock
      exact isBlock
    case _ => exact trivial
  case _ => exact trivial

theorem fits_quoted {kind : Kind} {quote char : Character} {escapes : Bool}
    {text : Text} (isQuoted : ∀ length, Fits char text (kind, length)) :
    Fits char text (quoted kind quote escapes text) := by
  unfold quoted
  split
  · exact isQuoted _
  · exact trivial

theorem fits_numeral (char : Character) (text : Text) :
    Fits char text (numeral text) := by
  unfold numeral
  simp only
  split
  · exact trivial
  · split <;> exact trivial

theorem fits_return (text : Text) :
    Fits (.of '\r') text
      (.lineBreak, if text.head? = some (.of '\n') then 1 else 0) := by
  simp only [Fits, Shaped]
  split
  case _ second =>
    obtain ⟨later, rfl⟩ := List.head?_eq_some_iff.mp second
    simp [lineBreaks]
  case _ => simp [lineBreaks]

theorem fits_blank {char : Character} (text : Text)
    (isBlankChar : isLineBlank char = true) :
    Fits char text (.blank, runLength isLineBlank text) := by
  simp only [Fits, Shaped, take_runLength, List.forall_mem_cons]
  exact ⟨isBlankChar, fun _ => List.mem_takeWhile_imp⟩

theorem fits_first (char : Character) (text : Text) :
    Fits char text (first char text) := by
  unfold first
  repeat' refine iteInduction (motive := Fits char text) ?_ fun _ => ?_
  all_goals try exact fun _ => trivial
  · rintro rfl
    split
    case _ second => exact isComment_dashes second
    case _ => exact trivial
  · rintro rfl
    exact fits_slash text
  · rintro rfl
    exact .hash (isInLine_of_mem_run text)
      (head?_drop_runLength isInLine text)
  · rintro rfl
    exact fits_return text
  · rintro rfl
    simp [Fits, Shaped, lineBreaks]
  · exact fits_blank text
  · exact fun _ => fits_quoted fun _ => trivial
  · exact fun _ => fits_quoted fun _ => trivial
  · exact fun _ => fits_quoted fun _ => trivial
  · exact fun _ => fits_numeral char text
  · exact trivial

end Lexeme

namespace Token

/-- Lexemes of the kind are kept as tokens. -/
def isKept (keepBreaks : Bool) (kind : Kind) : Bool :=
  !kind.isSkipped && (keepBreaks || kind != .lineBreak)

theorem tokenize_eq (keepBreaks : Bool) (text : Text) :
    tokenize keepBreaks text
      = (placed .start (lexemes text)).filter fun token =>
        isKept keepBreaks token.kind := by
  cases keepBreaks with
  | true => simp [tokenize, stream, isKept]
  | false =>
      simp [tokenize, withoutBreaks, stream, isKept, List.filter_filter,
        Bool.and_comm]

/-- The tokens account for a text that begins at an offset: in front of each
of them the text is silent, and the last one marks the end. -/
inductive Accounts (keepBreaks : Bool) : Nat → Text → List Token → Prop where
  | finish {offset : Nat} {silence : Text} {place : Place}
      (silent : Silent keepBreaks [] silence)
      (stands : place.offset = offset + silence.length) :
      Accounts keepBreaks offset silence [⟨.endOfText, [], place⟩]
  | token {offset : Nat} {silence rest : Text} {token : Token}
      {tokens : List Token}
      (silent : Silent keepBreaks (token.text ++ rest) silence)
      (stands : token.offset = offset + silence.length)
      (nonempty : token.text ≠ []) (proper : token.kind ≠ .endOfText)
      (goesOn : Accounts keepBreaks token.stop rest tokens) :
      Accounts keepBreaks offset (silence ++ (token.text ++ rest))
        (token :: tokens)

theorem silent_of_shaped {keepBreaks : Bool} {rest later : Text}
    {lexeme : Lexeme} (dropped : isKept keepBreaks lexeme.kind = false)
    (shaped : lexeme.Shaped (later ++ rest))
    (goesOn : Silent keepBreaks rest later) :
    Silent keepBreaks rest (lexeme.text ++ later) := by
  obtain ⟨kind, text⟩ := lexeme
  cases kind with
  | blank => exact .blanks shaped goesOn
  | comment => exact .comment shaped goesOn
  | lineBreak =>
      cases keepBreaks with
      | true => cases dropped
      | false => exact .lineBreak rfl shaped goesOn
  | _ => simp [isKept, Kind.isSkipped] at dropped

/-- A lexeme that is left out makes the silence behind it longer. -/
theorem Accounts.of_dropped {keepBreaks : Bool} {offset : Nat} {text : Text}
    {lexeme : Lexeme} {tokens : List Token}
    (dropped : isKept keepBreaks lexeme.kind = false)
    (shaped : lexeme.Shaped text)
    (accounts : Accounts keepBreaks (offset + lexeme.text.length) text tokens) :
    Accounts keepBreaks offset (lexeme.text ++ text) tokens := by
  cases accounts with
  | finish silent stands =>
      have whole := text.append_nil
      rw [← whole] at shaped
      refine .finish (silent_of_shaped dropped shaped silent) ?_
      rw [stands, List.length_append, Nat.add_assoc]
  | token silent stands nonempty proper goesOn =>
      have longer := silent_of_shaped dropped shaped silent
      rw [← List.append_assoc]
      refine .token longer ?_ nonempty proper goesOn
      rw [stands, List.length_append, Nat.add_assoc]

theorem accounts_placed (keepBreaks : Bool) (place : Place) (text : Text) :
    Accounts keepBreaks place.offset text
      ((placed place (lexemes text)).filter fun token =>
        isKept keepBreaks token.kind) := by
  induction text using lexemes.induct generalizing place with
  | case1 =>
      have kept : isKept keepBreaks .endOfText = true := by
        cases keepBreaks <;> rfl
      rw [lexemes, placed, List.filter_cons, if_pos kept]
      exact .finish .nil rfl
  | case2 char text kind length found induction =>
      have shaped := Lexeme.fits_first char text
      rw [Lexeme.Fits, found] at shaped
      have whole : char :: text
          = (char :: text.take length) ++ text.drop length := by
        rw [List.cons_append, List.take_append_drop]
      have goesOn := induction (place.after ⟨kind, char :: text.take length⟩)
      rw [Place.offset_after] at goesOn
      rw [Lexeme.lexemes_cons, found, placed, List.filter_cons, whole]
      cases kept : isKept keepBreaks kind with
      | false => exact goesOn.of_dropped kept shaped
      | true =>
          let token : Token := ⟨kind, char :: text.take length, place⟩
          have proper : token.kind ≠ .endOfText := by
            intro isEnd
            exact shaped.proper isEnd
          have nonempty : token.text ≠ [] := List.cons_ne_nil _ _
          exact .token .nil rfl nonempty proper goesOn

/-- Between two offsets the text is silent. -/
def Gap (keepBreaks : Bool) (text : Text) (start stop : Nat) : Prop :=
  Silent keepBreaks (text.drop stop) (Declaration.slice text start stop)

/-- The tokens are pieces of the text in their order, the last of them alone
marks the end, and nothing but blanks, comments and line breaks that are not
kept is left out. -/
structure Covers (keepBreaks : Bool) (text : Text) (tokens : List Token) :
    Prop where
  ends : ∃ pieces place, tokens = pieces ++ [⟨.endOfText, [], place⟩]
    ∧ place.offset = text.length
    ∧ ∀ token ∈ pieces, token.kind ≠ .endOfText ∧ token.text ≠ []
  kept : ∀ token ∈ tokens, token.kind ≠ .blank ∧ token.kind ≠ .comment
    ∧ (keepBreaks = false → token.kind ≠ .lineBreak)
  slices : ∀ token ∈ tokens,
    Declaration.slice text token.offset token.stop = token.text
  ordered : tokens.Pairwise Precedes
  front : ∀ first ∈ tokens.head?, Gap keepBreaks text 0 first.offset
  gaps : tokens.IsChain fun earlier later =>
    Gap keepBreaks text earlier.stop later.offset

section Accounts

variable {keepBreaks : Bool} {offset : Nat} {text : Text}
  {tokens : List Token}

theorem Accounts.ends (accounts : Accounts keepBreaks offset text tokens) :
    ∃ pieces place, tokens = pieces ++ [⟨.endOfText, [], place⟩]
      ∧ place.offset = offset + text.length
      ∧ ∀ token ∈ pieces, token.kind ≠ .endOfText ∧ token.text ≠ [] := by
  induction accounts with
  | finish silent stands => exact ⟨[], _, rfl, stands, nofun⟩
  | @token _ _ _ token _ silent stands nonempty proper goesOn induction =>
      obtain ⟨pieces, place, rfl, length, inner⟩ := induction
      refine ⟨token :: pieces, place, rfl, ?_, ?_⟩
      · rw [length, stop, stands]
        simp only [List.length_append]
        omega
      · exact List.forall_mem_cons.mpr ⟨⟨proper, nonempty⟩, inner⟩

theorem Accounts.offset_le (accounts : Accounts keepBreaks offset text tokens) :
    ∀ token ∈ tokens, offset ≤ token.offset := by
  induction accounts with
  | finish silent stands =>
      intro token member
      rw [List.mem_singleton.mp member, Token.offset, stands]
      exact Nat.le_add_right _ _
  | token silent stands nonempty proper goesOn induction =>
      refine List.forall_mem_cons.mpr ⟨?_, ?_⟩
      · omega
      · intro later member
        have further := induction later member
        rw [stop] at further
        omega

theorem Accounts.pairwise (accounts : Accounts keepBreaks offset text tokens) :
    tokens.Pairwise Precedes := by
  induction accounts with
  | finish silent stands => exact List.pairwise_singleton _ _
  | token silent stands nonempty proper goesOn induction =>
      exact List.pairwise_cons.mpr ⟨goesOn.offset_le, induction⟩

theorem length_reached {before silence : Text} {token : Token}
    (begins : before.length = offset)
    (stands : token.offset = offset + silence.length) :
    (before ++ silence).length = token.offset := by
  rw [List.length_append, begins, stands]

theorem length_passed {before silence : Text} {token : Token}
    (begins : before.length = offset)
    (stands : token.offset = offset + silence.length) :
    (before ++ silence ++ token.text).length = token.stop := by
  rw [List.length_append, length_reached begins stands, stop]

theorem Accounts.slices {before : Text} (begins : before.length = offset)
    (accounts : Accounts keepBreaks offset text tokens) :
    ∀ token ∈ tokens, Declaration.slice (before ++ text) token.offset
      token.stop = token.text := by
  induction accounts generalizing before with
  | finish silent stands =>
      intro token member
      rw [List.mem_singleton.mp member]
      simp [Declaration.slice, stop]
  | @token _ silence rest token _ silent stands nonempty proper goesOn
      induction =>
      have passed := length_passed begins stands
      have whole : before ++ (silence ++ (token.text ++ rest))
          = before ++ silence ++ token.text ++ rest := by
        simp only [List.append_assoc]
      rw [whole]
      refine List.forall_mem_cons.mpr ⟨?_, induction passed⟩
      rw [stop, ← length_reached begins stands]
      exact Declaration.slice_append _ _ _

theorem gap_append {before silence rest : Text}
    (silent : Silent keepBreaks rest silence) :
    Gap keepBreaks (before ++ (silence ++ rest)) before.length
      (before.length + silence.length) := by
  have behind : (before ++ (silence ++ rest)).drop
      (before.length + silence.length) = rest := by
    rw [← List.append_assoc, ← List.length_append, List.drop_left]
  rw [Gap, behind, ← List.append_assoc, Declaration.slice_append]
  exact silent

theorem Accounts.front {before : Text} (begins : before.length = offset)
    (accounts : Accounts keepBreaks offset text tokens) :
    ∀ first ∈ tokens.head?,
      Gap keepBreaks (before ++ text) offset first.offset := by
  subst begins
  intro first member
  cases accounts with
  | finish silent stands =>
      cases member
      have gap : Gap keepBreaks (before ++ (text ++ [])) before.length
          (before.length + text.length) := gap_append silent
      rw [List.append_nil, ← stands] at gap
      exact gap
  | token silent stands nonempty proper goesOn =>
      cases member
      rw [stands]
      exact gap_append silent

theorem Accounts.gaps {before : Text} (begins : before.length = offset)
    (accounts : Accounts keepBreaks offset text tokens) :
    tokens.IsChain fun earlier later =>
      Gap keepBreaks (before ++ text) earlier.stop later.offset := by
  induction accounts generalizing before with
  | finish silent stands => exact .singleton _
  | @token _ silence rest token _ silent stands nonempty proper goesOn
      induction =>
      have passed := length_passed begins stands
      have whole : before ++ (silence ++ (token.text ++ rest))
          = before ++ silence ++ token.text ++ rest := by
        simp only [List.append_assoc]
      rw [whole]
      exact List.isChain_cons.mpr ⟨goesOn.front passed, induction passed⟩

end Accounts

theorem kept_of_mem_tokenize {keepBreaks : Bool} {text : Text} {token : Token}
    (member : token ∈ tokenize keepBreaks text) :
    token.kind ≠ .blank ∧ token.kind ≠ .comment
      ∧ (keepBreaks = false → token.kind ≠ .lineBreak) := by
  rw [tokenize_eq] at member
  have kept := (List.mem_filter.mp member).2
  refine ⟨?_, ?_, ?_⟩
  · intro blank
    simp [blank, isKept, Kind.isSkipped] at kept
  · intro comment
    simp [comment, isKept, Kind.isSkipped] at kept
  · intro dropped lineBreak
    simp [dropped, lineBreak, isKept] at kept

theorem exists_stream_eq (text : Text) :
    ∃ pieces place, stream text = pieces ++ [⟨.endOfText, [], place⟩]
      ∧ ∀ token ∈ pieces, token.kind ≠ .endOfText := by
  have accounts := accounts_placed true .start text
  rw [← tokenize_eq] at accounts
  obtain ⟨pieces, place, divided, -, proper⟩ := accounts.ends
  exact ⟨pieces, place, divided, fun token member => (proper token member).1⟩

/-- Whether line breaks are kept or not, the tokens of a text cover it, and
without them they are the same tokens but for the line breaks. -/
theorem covers_tokenize (text : Text) :
    (∀ keepBreaks, Covers keepBreaks text (tokenize keepBreaks text))
      ∧ tokenize false text
        = (tokenize true text).filter
          fun token => token.kind != .lineBreak := by
  refine ⟨?_, rfl⟩
  intro keepBreaks
  have accounts := accounts_placed keepBreaks .start text
  rw [← tokenize_eq] at accounts
  have begins : ([] : Text).length = Place.start.offset := rfl
  obtain ⟨pieces, place, divided, length, proper⟩ := accounts.ends
  have total : place.offset = text.length := by
    rw [length]
    exact Nat.zero_add _
  exact
    { ends := ⟨pieces, place, divided, total, proper⟩
      kept := fun _ => kept_of_mem_tokenize
      slices := accounts.slices begins
      ordered := accounts.pairwise
      front := accounts.front begins
      gaps := accounts.gaps begins }

end Token

end SchemaSheet
