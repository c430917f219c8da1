import Mathlib.Data.List.Forall2
import SchemaSheet.Proofs.Script.Pieces
import SchemaSheet.Proofs.Table.Outcome
import SchemaSheet.Proofs.Token.Line

/-!
# Places that are reported

A failure tells the offset of a parenthesis, and the journal tells the lines of
the declarations that it skips.  Both are places in one statement of the script,
counted from its first character that is no blank.  `reported_places` says
where these places are in the script.
-/

namespace SchemaSheet

namespace Located

/-- The statement is the first one of the script with a header, and this stands
in front of it: the pieces of the script in front of its own, and the blanks in
front of it in its own. -/
structure StandsBehind (located : Located) (script lead : Text) : Prop where
  first : located.IsFirst script
  divided : ∃ before piece after, Script.pieces script = before ++ piece :: after
    ∧ (∀ earlier ∈ before,
      Header.find? (Token.stream (Text.trim earlier)) = none)
    ∧ located.statement = Text.trim piece
    ∧ lead = before.flatten ++ piece.takeWhile isBlank

/-- The declarations of the block that declare no column. -/
def skipped (openings : List Opening) (located : Located) (closing : Nat) :
    List (List Token) :=
  (Block.declarations (located.block closing)).filter fun declaration =>
    (located.columnOf? openings declaration).isNone

/-- The entry of the journal about a declaration that is skipped: it tells the
line of the first token, and its text too if the declaration is no clause. -/
inductive Notes (openings : List Opening) (located : Located) :
    List Token → Event → Prop where
  | clause {first : Token} {rest : List Token}
      (isClause : Declaration.isClause openings (first :: rest) = true) :
      Notes openings located (first :: rest) (.clauseSkipped first.place.line)
  | unrecognised {first : Token} {rest : List Token}
      (noClause : Declaration.isClause openings (first :: rest) = false)
      (noColumn :
        Declaration.column? located.statement (first :: rest) = none) :
      Notes openings located (first :: rest)
        (.declarationSkipped first.place.line first.text)

end Located

/-- The entry is about a declaration that is skipped. -/
def Event.isSkip : Event → Bool
  | clauseSkipped _ | declarationSkipped .. => true
  | _ => false

/-- Where a token of the statement is in the script, with `lead` in front of the
statement: as far behind the lead as its offset says, and as many lines further
down as the lead has line breaks, and as returns are hidden in the statement in
front of the token. -/
def Token.FoundBehind (script lead statement : Text) (token : Token) : Prop :=
  ∃ front, token.ReadBehind statement front
    ∧ Declaration.slice script (lead.length + token.offset)
      (lead.length + token.stop) = token.text
    ∧ Text.lineAt script (lead.length + token.offset)
      = token.place.line + lead.breaks + Lexeme.hidden front

namespace Located

section StandsBehind

variable {located : Located} {script lead : Text}

theorem exists_standsBehind (first : located.IsFirst script) :
    ∃ lead, located.StandsBehind script lead := by
  have found := first
  obtain ⟨before, after, divided, headless, -⟩ := found
  rw [Script.statements_eq] at divided
  obtain ⟨pieces, others, whole, rfl, rest⟩ :=
    List.map_eq_append_iff.mp divided
  obtain ⟨piece, later, rfl, trimmed, -⟩ := List.map_eq_cons_iff.mp rest
  refine ⟨_, first, pieces, piece, later, whole, ?_, trimmed.symm, rfl⟩
  intro earlier member
  exact headless _ (List.mem_map_of_mem member)

theorem StandsBehind.whole (stands : located.StandsBehind script lead) :
    ∃ trail, script = lead ++ located.statement ++ trail := by
  obtain ⟨before, piece, after, divided, -, trimmed, rfl⟩ := stands.divided
  obtain ⟨tail, -, whole⟩ := Script.exists_flatten_pieces script
  have own : piece = piece.takeWhile isBlank ++ Text.trimStart piece :=
    List.takeWhile_append_dropWhile.symm
  rw [Text.trimStart_eq, ← trimmed] at own
  rw [divided, List.flatten_append, List.flatten_cons, own] at whole
  refine ⟨((Text.trimStart piece).reverse.takeWhile isBlank).reverse
    ++ after.flatten ++ tail, whole.trans ?_⟩
  simp only [List.append_assoc]

theorem StandsBehind.tokens (stands : located.StandsBehind script lead) :
    located.tokens = Token.stream located.statement := by
  obtain ⟨-, -, -, -, tokens, -⟩ := stands.first
  exact tokens

theorem StandsBehind.parted (stands : located.StandsBehind script lead)
    (count : Nat) : Text.Parted lead (located.statement.take count) := by
  obtain ⟨-, piece, -, -, -, trimmed, -⟩ := stands.divided
  intro _ begins
  have first : located.statement.head? = some (.of '\n') := by
    rw [List.head?_take] at begins
    split at begins
    · cases begins
    · exact begins
  rw [trimmed] at first
  have proper := Text.head?_trim piece _ first
  cases proper

theorem StandsBehind.getElem? (stands : located.StandsBehind script lead)
    {offset : Nat} {char : Character}
    (found : located.statement[offset]? = some char) :
    script[lead.length + offset]? = some char := by
  obtain ⟨trail, rfl⟩ := stands.whole
  rw [List.append_assoc, List.getElem?_append_right (Nat.le_add_right _ _),
    Nat.add_sub_cancel_left,
    List.getElem?_append_left (List.getElem?_eq_some_iff.mp found).1]
  exact found

theorem StandsBehind.lineAt (stands : located.StandsBehind script lead)
    {offset : Nat} (inside : offset ≤ located.statement.length) :
    Text.lineAt script (lead.length + offset)
      = Text.lineAt located.statement offset + lead.breaks := by
  have parted := stands.parted offset
  obtain ⟨trail, rfl⟩ := stands.whole
  rw [Text.lineAt, List.append_assoc, List.take_length_add_append,
    List.take_append_of_le_length inside, Text.breaks_append parted,
    Text.lineAt]
  omega

theorem StandsBehind.getElem?_of_opening
    (stands : located.StandsBehind script lead) {paren : Token}
    (opening : located.tokens[located.header.opening]? = some paren) :
    located.statement[paren.offset]? = some (.of '(') := by
  obtain ⟨same, found, opens⟩ := stands.first.opening
  rw [opening] at found
  cases found
  have member : paren ∈ Token.tokenize true located.statement := by
    have inside := List.mem_of_getElem? opening
    rw [stands.tokens] at inside
    exact inside
  obtain ⟨front, behind⟩ :=
    Token.exists_readBehind member (by rw [opens]; nofun)
  exact behind.getElem?_of_openParen opens

theorem StandsBehind.foundBehind (stands : located.StandsBehind script lead)
    {token : Token} (member : token ∈ located.tokens)
    (proper : token.kind ≠ .endOfText) :
    token.FoundBehind script lead located.statement := by
  rw [stands.tokens] at member
  have kept : token ∈ Token.tokenize true located.statement := member
  obtain ⟨front, behind⟩ := Token.exists_readBehind kept proper
  obtain ⟨before, after, divided, place, -⟩ :=
    Token.exists_of_mem_stream member proper
  have inside : token.offset ≤ located.statement.length := by
    rw [place, divided]
    simp only [List.length_append]
    omega
  refine ⟨front, behind, ?_, ?_⟩
  · obtain ⟨trail, rfl⟩ := stands.whole
    have length : lead.length + token.offset = (lead ++ before).length := by
      rw [place, List.length_append]
    have whole : lead ++ located.statement ++ trail
        = (lead ++ before) ++ token.text ++ (after ++ trail) := by
      rw [divided]
      simp only [List.append_assoc]
    rw [Token.stop, ← Nat.add_assoc, length, whole]
    exact Declaration.slice_append _ _ _
  · rw [stands.lineAt inside, behind.lineAt_offset]
    omega

/-- The mark of the end stands behind the block, in no declaration. -/
theorem StandsBehind.proper_of_mem_declarations
    (stands : located.StandsBehind script lead) {closing : Nat}
    (closed : located.Closes closing) {declaration : List Token}
    (declared : declaration ∈ Block.declarations (located.block closing))
    {token : Token} (member : token ∈ declaration) :
    token ∈ located.tokens ∧ token.kind ≠ .endOfText := by
  rw [← Block.map_snd_declarationsAt] at declared
  obtain ⟨⟨index, piece⟩, listed, rfl⟩ := List.mem_map.mp declared
  obtain ⟨count, found⟩ := List.mem_iff_getElem?.mp member
  obtain ⟨before, present⟩ := Block.getElem?_of_standsAt
    (Block.standsAt_of_mem_declarationsAt listed) found
  obtain ⟨pieces, place, divided, proper⟩ :=
    Token.exists_stream_eq located.statement
  refine ⟨List.mem_of_getElem? present, ?_⟩
  have inside := closed.inside
  rw [stands.tokens, divided] at present inside
  simp only [List.length_append, List.length_singleton] at inside
  rw [List.getElem?_append_left (by omega)] at present
  exact proper token (List.mem_of_getElem? present)

end StandsBehind

theorem forall₂_notes (openings : List Opening) (located : Located)
    {declarations : List (List Token)}
    (nonempty : ∀ declaration ∈ declarations, declaration ≠ []) :
    List.Forall₂ (located.Notes openings)
      (declarations.filter fun declaration =>
        (located.columnOf? openings declaration).isNone)
      ((declarations.map (Verdict.on openings located.statement)).filterMap
        Verdict.event?) := by
  induction declarations with
  | nil => exact .nil
  | cons declaration later induction =>
      obtain ⟨here, behind⟩ := List.forall_mem_cons.mp nonempty
      obtain ⟨first, rest, rfl⟩ := List.exists_cons_of_ne_nil here
      have others := induction behind
      rw [List.filter_cons, List.map_cons, List.filterMap_cons, columnOf?,
        Verdict.on]
      cases isClause : Declaration.isClause openings (first :: rest) with
      | true =>
          simp only [if_true, Option.isNone_none]
          exact .cons (.clause isClause) others
      | false =>
          simp only [Bool.false_eq_true, if_false]
          cases column : Declaration.column? located.statement
              (first :: rest) with
          | none =>
              simp only [Option.isNone_none, if_true]
              exact .cons (.unrecognised isClause column) others
          | some found =>
              simp only [Option.isNone_some, Bool.false_eq_true, if_false]
              exact others

end Located

theorem Survey.filter_events (survey : Survey) :
    survey.events.filter Event.isSkip
      = survey.verdicts.filterMap Verdict.event? := by
  have skips : ∀ event ∈ survey.verdicts.filterMap Verdict.event?,
      event.isSkip = true := by
    intro event member
    obtain ⟨verdict, -, made⟩ := List.mem_filterMap.mp member
    cases verdict with
    | clause line => cases made; rfl
    | unrecognised line text => cases made; rfl
    | column found => cases made
  have last : (if survey.columns.length = 0 then [] else
      [Event.columnsParsed survey.columns.length
        survey.header.name.text]).filter Event.isSkip = [] := by
    split <;> rfl
  rw [events, List.filter_append, last, List.append_nil, List.filter_cons,
    List.filter_eq_self.mpr skips]
  rfl

namespace Table

theorem exists_located_of_ofScript {openings : List Opening} {script : Text}
    {survey : Survey}
    (made : Survey.ofScript openings (some script) = .ok survey) :
    ∃ located, located.IsFirst script
      ∧ Survey.ofLocated openings located = .ok survey := by
  simp only [Survey.ofScript] at made
  split at made
  · cases made
  · split at made
    · cases made
    case _ located found =>
      exact ⟨located, Located.find?_eq_some_iff.mp found, made⟩

/-- The offset of a parenthesis that is never closed is its offset in the
statement, and lines of skipped declarations are their lines in the statement.
In the script what stands in front of the statement comes to them, and the
returns that places do not count. -/
theorem reported_places (openings : List Opening) (script : Text) :
    (∀ offset depth, parse openings (some script)
        = .error (.columnBlockNotFound offset depth) →
      ∃ (located : Located) (lead : Text) (paren : Token),
        located.StandsBehind script lead
        ∧ located.tokens[located.header.opening]? = some paren
        ∧ offset = paren.offset
        ∧ located.statement[offset]? = some (.of '(')
        ∧ script[lead.length + offset]? = some (.of '('))
    ∧ ((parseEvents openings (some script)).filter Event.isSkip = []
      ∨ ∃ (located : Located) (lead : Text) (closing : Nat),
        located.StandsBehind script lead
        ∧ located.Closes closing
        ∧ List.Forall₂ (located.Notes openings)
          (located.skipped openings closing)
          ((parseEvents openings (some script)).filter Event.isSkip)
        ∧ ∀ declaration ∈ located.skipped openings closing,
          ∀ first ∈ declaration.head?,
            first.FoundBehind script lead located.statement) := by
  constructor
  · intro offset depth failed
    have outcome := outcome_parse openings (some script)
    rw [failed] at outcome
    cases outcome with
    | @columnBlockNotFound _ located paren _ first opening =>
        obtain ⟨lead, stands⟩ := Located.exists_standsBehind first
        have found := stands.getElem?_of_opening opening
        exact ⟨located, lead, paren, stands, opening, rfl, found,
          stands.getElem? found⟩
  · cases made : Survey.ofScript openings (some script) with
    | error fault => exact .inl (by rw [parseEvents, made]; rfl)
    | ok survey =>
        obtain ⟨located, first, surveyed⟩ := exists_located_of_ofScript made
        obtain ⟨lead, stands⟩ := Located.exists_standsBehind first
        obtain ⟨closing, closed, rfl⟩ :=
          Located.ofLocated_eq_ok_iff.mp surveyed
        refine .inr ⟨located, lead, closing, stands,
          first.closeOf_eq_ok_iff.mp closed, ?_, ?_⟩
        · rw [parseEvents, made]
          simp only [Survey.filter_events]
          exact Located.forall₂_notes openings located fun _ member =>
            Block.ne_nil_of_mem_declarations member
        · intro declaration member token front
          obtain ⟨inBlock, proper⟩ := stands.proper_of_mem_declarations
            (first.closeOf_eq_ok_iff.mp closed) (List.mem_filter.mp member).1
            (List.mem_of_mem_head? front)
          exact stands.foundBehind inBlock proper

/-- A statement on the second line whose parenthesis is never closed. -/
def openOnSecondLine : Text := "\nCREATE TABLE t (a INT"

/-- The offset that is told is no offset of a parenthesis in this script, and
becomes one with what stands in front of the statement. -/
theorem reported_places_of_second_line :
    parse Opening.standard (some openOnSecondLine)
        = .error (.columnBlockNotFound 15 1)
      ∧ openOnSecondLine[15]? ≠ some (.of '(')
      ∧ ∃ (located : Located) (lead : Text) (paren : Token),
        located.StandsBehind openOnSecondLine lead
        ∧ located.tokens[located.header.opening]? = some paren
        ∧ 15 = paren.offset
        ∧ located.statement[15]? = some (.of '(')
        ∧ openOnSecondLine[lead.length + 15]? = some (.of '(') := by
  have failed : parse Opening.standard (some openOnSecondLine)
      = .error (.columnBlockNotFound 15 1) := by
    decide +kernel
  exact ⟨failed, by decide,
    (reported_places Opening.standard openOnSecondLine).1 15 1 failed⟩

end Table

end SchemaSheet
