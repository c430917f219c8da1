import SchemaSheet.Proofs.Script.Pieces
import SchemaSheet.Proofs.Table.HeaderLabel
import SchemaSheet.Proofs.Table.Location
import SchemaSheet.Proofs.Token.Reading

/-!
# Statements and the whole text

A header is searched in one statement after the other, and each statement is
read by itself.  Where no lexeme is cut in two up to the end of the header of
the whole text, the search in the statements finds that header if and only if
none of the cuts goes through it.
-/

namespace SchemaSheet

namespace Script

/-- The offsets at which pieces meet, where the first piece begins at
`offset`. -/
def meetings (offset : Nat) : List Text → List Nat
  | piece :: next :: rest =>
      (offset + piece.length)
        :: meetings (offset + piece.length) (next :: rest)
  | _ => []

/-- The offsets at which a script is cut into statements. -/
def cuts (script : Text) : List Nat :=
  meetings 0 (pieces script)

end Script

namespace Header

/-- The offsets of the token `CREATE` that a header begins with and of the
parenthesis that ends it. -/
structure Span where
  create : Nat
  opening : Nat
  deriving DecidableEq, Repr

/-- Where the header of a text stands. -/
def span? (text : Text) : Option Span :=
  (firstAt? (byOffset (Token.stream text))).map fun found =>
    ⟨found.1.2, found.2.opening⟩

end Header

namespace Script

/-- No lexeme of the text goes on at the offset. -/
def IsBoundary (text : Text) (offset : Nat) : Prop :=
  lexemes text = lexemes (text.take offset) ++ lexemes (text.drop offset)

instance (text : Text) (offset : Nat) : Decidable (IsBoundary text offset) :=
  inferInstanceAs (Decidable (_ = _))

/-- Up to the end of its header, a script is cut only between lexemes. -/
def KeepsLexemes (script : Text) : Prop :=
  ∀ offset ∈ cuts script,
    (∀ span ∈ Header.span? script, offset ≤ span.opening) →
      IsBoundary script offset

instance (script : Text) : Decidable (KeepsLexemes script) :=
  inferInstanceAs (Decidable (∀ _, _ → _))

/-- A script is not cut inside its header. -/
def KeepsHeader (script : Text) : Prop :=
  ∀ offset ∈ cuts script, ∀ span ∈ Header.span? script,
    offset ≤ span.create ∨ span.opening < offset

instance (script : Text) : Decidable (KeepsHeader script) :=
  inferInstanceAs (Decidable (∀ _, _ → _))

/-- No statement up to the one that holds the first word of the header has a
header. -/
def MissesHeader (script : Text) : Prop :=
  ∃ span ∈ Header.span? script, ∃ count,
    span.create < ((pieces script).take count).flatten.length
      ∧ ∀ statement ∈ (Splitter.statements script).take count,
        Header.find? (Token.stream statement) = none

/-- The search for the header of the whole text has come to what stands behind
`done`: no header begins before, and no lexeme is cut there. -/
structure Reached (script done rest : Text) : Prop where
  whole : script = done ++ rest
  divided : lexemes script = lexemes done ++ lexemes rest
  same : Header.firstAt?
      (Header.signsAt (Place.start.behind (lexemes done)) (lexemes rest))
    = Header.firstAt? (Header.signsAt .start (lexemes script))

theorem Reached.start (script : Text) : Reached script [] script := by
  refine ⟨rfl, ?_, ?_⟩
  · simp [lexemes]
  · simp [lexemes]

theorem offset_behind_lexemes (text : Text) :
    (Place.start.behind (lexemes text)).offset = text.length := by
  rw [Place.offset_behind_start, flatMap_lexemes]

section Step

variable {script done piece rest : Text}
  (reached : Reached script done (piece ++ rest))

include reached

/-- The piece that holds the parenthesis of the header has the header. -/
theorem Reached.labelOf_eq_some {create : IndexedToken} {header : Header}
    (found : Header.firstAt? (Header.signsAt .start (lexemes script))
      = some (create, header))
    (inside : header.opening < done.length + piece.length) :
    Header.labelOf piece = some header.label := by
  rw [← reached.same] at found
  obtain ⟨paren, member, opens⟩ := (Header.mem_of_firstAt? found).2
  obtain ⟨before, lexeme, after, divided, made⟩ :=
    Header.exists_of_mem_signsAt member
  obtain ⟨rfl, opening⟩ := Prod.mk.inj made
  have start := offset_behind_lexemes done
  have nearer : (before.flatMap Lexeme.text).length < piece.length := by
    rw [opening, Place.offset_behind, start] at inside
    omega
  obtain ⟨more, pieceDivided⟩ :=
    Lexeme.lexemes_of_openParen divided opens nearer
  have isParen := Lexeme.eq_openParen (Lexeme.lexemes_suffix divided) opens
  have isSign : lexeme.isSign = true := by
    rw [isParen]
    rfl
  rw [divided, Header.signsAt_append, Header.signsAt_cons, isSign,
    if_pos rfl, ← opening] at found
  rw [← Header.labelAt_signsAt (Place.start.behind (lexemes done)),
    pieceDivided, Header.labelAt, Header.signsAt_append, Header.signsAt_cons,
    isSign, if_pos rfl, ← opening,
    Header.firstAt?_of_opening opens found]
  · rfl
  · intro token tokenMember
    have further := Header.offset_le_of_mem_signsAt tokenMember
    rw [Place.offset_after, ← opening] at further
    have nonempty : 0 < lexeme.text.length := by
      rw [isParen]
      exact Nat.one_pos
    omega

theorem Reached.divide
    (boundary : lexemes script = lexemes (done ++ piece) ++ lexemes rest) :
    lexemes (done ++ piece) = lexemes done ++ lexemes piece
      ∧ lexemes (piece ++ rest) = lexemes piece ++ lexemes rest := by
  have both := reached.divided.symm.trans boundary
  rcases List.append_eq_append_iff.mp both with
    ⟨between, front, back⟩ | ⟨between, front, back⟩
  · have text : between.flatMap Lexeme.text = piece := by
      have whole := congrArg (List.flatMap Lexeme.text) back
      rw [List.flatMap_append, flatMap_lexemes, flatMap_lexemes] at whole
      exact (List.append_cancel_right whole).symm
    have alone := Lexeme.lexemes_suffix front
    rw [text] at alone
    rw [alone]
    exact ⟨front, back⟩
  · have whole := congrArg (List.flatMap Lexeme.text) back
    rw [List.flatMap_append, flatMap_lexemes, flatMap_lexemes] at whole
    have sizes := congrArg List.length whole
    simp only [List.length_append] at sizes
    have empty : piece = [] := List.length_eq_zero_iff.mp (by omega)
    rw [empty]
    simp [lexemes]

theorem Reached.labelOf_eq_none
    (boundary : lexemes script = lexemes (done ++ piece) ++ lexemes rest)
    (behind : ∀ create header,
      Header.firstAt? (Header.signsAt .start (lexemes script))
        = some (create, header) →
      done.length + piece.length ≤ header.opening) :
    Header.labelOf piece = none := by
  obtain ⟨-, divided⟩ := reached.divide boundary
  have same := reached.same
  rw [divided, Header.signsAt_append] at same
  rw [← Header.labelAt_signsAt (Place.start.behind (lexemes done)),
    Header.labelAt, Option.map_eq_none_iff]
  cases found : Header.firstAt? (Header.signsAt
      (Place.start.behind (lexemes done)) (lexemes piece)) with
  | none => rfl
  | some located =>
      obtain ⟨create, header⟩ := located
      rw [Header.firstAt?_append_of_some _ found] at same
      have further := behind create header same.symm
      obtain ⟨paren, member, -⟩ := (Header.mem_of_firstAt? found).2
      have nearer := Header.lt_of_mem_signsAt member
      rw [offset_behind_lexemes] at nearer
      omega

theorem Reached.next
    (boundary : lexemes script = lexemes (done ++ piece) ++ lexemes rest)
    (behind : ∀ create header,
      Header.firstAt? (Header.signsAt .start (lexemes script))
        = some (create, header) → done.length + piece.length ≤ create.2) :
    Reached script (done ++ piece) rest := by
  obtain ⟨front, divided⟩ := reached.divide boundary
  have same := reached.same
  refine ⟨by rw [reached.whole, List.append_assoc], boundary, ?_⟩
  rw [divided, Header.signsAt_append] at same
  rw [front, Place.behind_append, ← same, Header.firstAt?_append]
  intro create header found member
  rw [same] at found
  have further := behind create header found
  have nearer := Header.lt_of_mem_signsAt member
  rw [offset_behind_lexemes] at nearer
  omega

theorem Reached.divided_of_isBoundary
    (boundary : IsBoundary script (done.length + piece.length)) :
    lexemes script = lexemes (done ++ piece) ++ lexemes rest := by
  have whole : script = (done ++ piece) ++ rest := by
    rw [reached.whole, List.append_assoc]
  rw [IsBoundary, ← List.length_append, whole, List.take_left,
    List.drop_left] at boundary
  rw [whole]
  exact boundary

end Step

theorem mem_span? {script : Text} {span : Header.Span} :
    span ∈ Header.span? script ↔ ∃ create header,
      Header.firstAt? (Header.signsAt .start (lexemes script))
        = some (create, header)
      ∧ span = ⟨create.2, header.opening⟩ := by
  rw [Header.span?, Header.firstAt?_stream, Option.mem_def,
    Option.map_eq_some_iff]
  constructor
  · rintro ⟨⟨create, header⟩, found, rfl⟩
    exact ⟨create, header, found, rfl⟩
  · rintro ⟨create, header, found, rfl⟩
    exact ⟨(create, header), found, rfl⟩

theorem Reached.labelAt_eq {script done rest tail : Text}
    (reached : Reached script done (rest ++ tail))
    (blank : ∀ char ∈ tail, isBlank char = true) :
    Header.labelAt (Header.signsAt .start (lexemes script))
      = Header.labelOf rest := by
  rw [Header.labelAt, ← reached.same, ← Header.labelAt,
    Header.labelAt_signsAt, Header.labelOf_append_blanks blank]

/-- The statements behind `done` say what the header of the whole text says. -/
theorem Reached.findSome?_labelOf {script done tail : Text} {left : List Text}
    (reached : Reached script done (left.flatten ++ tail))
    (blank : ∀ char ∈ tail, isBlank char = true)
    (lexed : ∀ offset ∈ meetings done.length left,
      (∀ span ∈ Header.span? script, offset ≤ span.opening) →
        IsBoundary script offset)
    (uncut : ∀ offset ∈ meetings done.length left,
      ∀ span ∈ Header.span? script,
        offset ≤ span.create ∨ span.opening < offset) :
    left.findSome? Header.labelOf
      = Header.labelAt (Header.signsAt .start (lexemes script)) := by
  induction left generalizing done with
  | nil =>
      rw [reached.labelAt_eq blank, List.flatten_nil,
        Header.labelOf_of_allBlank (by simp)]
      rfl
  | cons piece rest induction =>
      cases rest with
      | nil =>
          rw [reached.labelAt_eq blank, List.flatten_cons, List.flatten_nil,
            List.append_nil, List.findSome?_cons]
          cases Header.labelOf piece <;> rfl
      | cons next rest =>
          rw [List.flatten_cons, List.append_assoc] at reached
          let cut := done.length + piece.length
          have isCut : cut ∈ meetings done.length (piece :: next :: rest) :=
            List.mem_cons_self
          by_cases passed : ∃ create header,
              Header.firstAt? (Header.signsAt .start (lexemes script))
                = some (create, header) ∧ header.opening < cut
          · obtain ⟨create, header, found, inside⟩ := passed
            rw [List.findSome?_cons, reached.labelOf_eq_some found inside,
              Header.labelAt, found]
            rfl
          · have ahead : ∀ create header,
                Header.firstAt? (Header.signsAt .start (lexemes script))
                  = some (create, header) →
                cut ≤ header.opening := by
              intro create header found
              apply Nat.le_of_not_lt
              intro inside
              exact passed ⟨create, header, found, inside⟩
            have inFront : ∀ span ∈ Header.span? script,
                cut ≤ span.opening := by
              intro span member
              obtain ⟨create, header, found, rfl⟩ := mem_span?.mp member
              exact ahead create header found
            have boundary :=
              reached.divided_of_isBoundary (lexed cut isCut inFront)
            have further : Reached script (done ++ piece)
                ((next :: rest).flatten ++ tail) := by
              apply reached.next boundary
              intro create header found
              have opening := ahead create header found
              have apart :=
                uncut cut isCut _ (mem_span?.mpr ⟨_, _, found, rfl⟩)
              exact apart.resolve_right (Nat.not_lt_of_le opening)
            rw [List.findSome?_cons, reached.labelOf_eq_none boundary ahead]
            apply induction further
            · intro offset member
              rw [List.length_append] at member
              exact lexed offset (List.mem_cons_of_mem _ member)
            · intro offset member
              rw [List.length_append] at member
              exact uncut offset (List.mem_cons_of_mem _ member)

theorem le_of_mem_meetings {start offset : Nat} {left : List Text}
    (member : offset ∈ meetings start left) : start ≤ offset := by
  induction left generalizing start with
  | nil => cases member
  | cons piece rest induction =>
      cases rest with
      | nil => cases member
      | cons next rest =>
          rcases List.mem_cons.mp member with same | later
          · omega
          · have further := induction later
            omega

/-- A cut inside the header leaves the statements up to the cut without one. -/
theorem Reached.exists_headless {script done tail : Text} {left : List Text}
    (reached : Reached script done (left.flatten ++ tail))
    (lexed : ∀ offset ∈ meetings done.length left,
      (∀ span ∈ Header.span? script, offset ≤ span.opening) →
        IsBoundary script offset)
    {create : IndexedToken} {header : Header}
    (found : Header.firstAt? (Header.signsAt .start (lexemes script))
      = some (create, header))
    {offset : Nat} (isCut : offset ∈ meetings done.length left)
    (behind : create.2 < offset) (inside : offset ≤ header.opening) :
    ∃ count, create.2 < done.length + (left.take count).flatten.length
      ∧ ∀ piece ∈ left.take count, Header.labelOf piece = none := by
  induction left generalizing done with
  | nil => cases isCut
  | cons piece rest induction =>
      cases rest with
      | nil => cases isCut
      | cons next rest =>
          rw [List.flatten_cons, List.append_assoc] at reached
          let cut := done.length + piece.length
          have notLater : cut ≤ offset := by
            rcases List.mem_cons.mp isCut with same | later
            · exact Nat.le_of_eq same.symm
            · exact le_of_mem_meetings later
          have inFront : ∀ span ∈ Header.span? script, cut ≤ span.opening := by
            intro span member
            obtain ⟨create, other, otherFound, rfl⟩ := mem_span?.mp member
            rw [found] at otherFound
            cases otherFound
            exact Nat.le_trans notLater inside
          have boundary := reached.divided_of_isBoundary
            (lexed cut List.mem_cons_self inFront)
          have headless : Header.labelOf piece = none := by
            apply reached.labelOf_eq_none boundary
            intro _ other otherFound
            rw [found] at otherFound
            cases otherFound
            exact Nat.le_trans notLater inside
          by_cases held : create.2 < cut
          · exact ⟨1, by simpa using held, by simpa using headless⟩
          · have further : Reached script (done ++ piece)
                ((next :: rest).flatten ++ tail) := by
              apply reached.next boundary
              intro _ _ otherFound
              rw [found] at otherFound
              cases otherFound
              exact Nat.le_of_not_lt held
            have later : offset
                ∈ meetings (done ++ piece).length (next :: rest) := by
              rw [List.length_append]
              rcases List.mem_cons.mp isCut with same | later
              · omega
              · exact later
            have stillLexed : ∀ offset
                ∈ meetings (done ++ piece).length (next :: rest),
                (∀ span ∈ Header.span? script, offset ≤ span.opening) →
                  IsBoundary script offset := by
              intro offset member
              rw [List.length_append] at member
              exact lexed offset (List.mem_cons_of_mem _ member)
            obtain ⟨count, holds, allHeadless⟩ :=
              induction further stillLexed later
            refine ⟨count + 1, ?_, ?_⟩
            · rw [List.length_append] at holds
              rw [List.take_succ_cons, List.flatten_cons, List.length_append]
              omega
            · rw [List.take_succ_cons]
              exact List.forall_mem_cons.mpr ⟨headless, allHeadless⟩

end Script

namespace Located

theorem map_label_find? (script : Text) :
    (find? script).map (fun located => located.header.label)
      = (Script.pieces script).findSome? Header.labelOf := by
  rw [find?, Script.statements_eq, List.map_findSome?, List.findSome?_map]
  congr 1
  funext piece
  rw [Function.comp_apply, ← Header.labelOf_trim piece, Header.labelOf,
    Function.comp_apply, ofStatement?, Option.map_map]
  rfl

/-- Where a script is not cut inside a lexeme up to the end of its header, the
search in the statements agrees with the search in the whole text if the header
is not cut either, and otherwise misses the header. -/
theorem find?_of_keepsLexemes {script : Text}
    (keepsLexemes : Script.KeepsLexemes script) :
    (Script.KeepsHeader script →
      (find? script).map (fun located => located.header.label)
        = (Header.find? (Token.stream script)).map Header.label)
    ∧ (¬Script.KeepsHeader script → Script.MissesHeader script) := by
  obtain ⟨tail, blank, whole⟩ := Script.exists_flatten_pieces script
  have reached : Script.Reached script []
      ((Script.pieces script).flatten ++ tail) := by
    rw [← whole]
    exact .start script
  constructor
  · intro keepsHeader
    rw [map_label_find?,
      reached.findSome?_labelOf blank keepsLexemes keepsHeader,
      Header.labelAt_signsAt]
    rfl
  · intro cutsHeader
    simp only [Script.KeepsHeader, not_forall, not_or, not_le,
      not_lt] at cutsHeader
    obtain ⟨offset, isCut, span, member, behind, inside⟩ := cutsHeader
    obtain ⟨create, header, found, rfl⟩ := Script.mem_span?.mp member
    obtain ⟨count, holds, headless⟩ :=
      reached.exists_headless keepsLexemes found isCut behind inside
    refine ⟨_, member, count, by simpa using holds, ?_⟩
    intro statement statementMember
    rw [Script.statements_eq, ← List.map_take] at statementMember
    obtain ⟨piece, pieceMember, rfl⟩ := List.mem_map.mp statementMember
    have none := headless piece pieceMember
    rw [← Header.labelOf_trim, Header.labelOf, Option.map_eq_none_iff] at none
    exact none

theorem find?_of_keepsLexemes_of_two_statements :
    Script.KeepsLexemes "a;CREATE TABLE t(b c)"
      ∧ Script.KeepsHeader "a;CREATE TABLE t(b c)"
      ∧ (find? "a;CREATE TABLE t(b c)").map
          (fun located => located.header.label)
        = (Header.find? (Token.stream "a;CREATE TABLE t(b c)")).map
          Header.label := by
  have keepsLexemes : Script.KeepsLexemes "a;CREATE TABLE t(b c)" := by
    decide +kernel
  have keepsHeader : Script.KeepsHeader "a;CREATE TABLE t(b c)" := by
    decide +kernel
  exact ⟨keepsLexemes, keepsHeader,
    (find?_of_keepsLexemes keepsLexemes).1 keepsHeader⟩

/-- A sign that begins a comment in front of a blank only is no comment to the
division into statements, so that the table in it is found. -/
example : ¬Script.KeepsLexemes "#;CREATE TABLE t(a b)"
    ∧ (find? "#;CREATE TABLE t(a b)").isSome = true
    ∧ Header.find? (Token.stream "#;CREATE TABLE t(a b)") = none := by
  decide +kernel

end Located

end SchemaSheet
