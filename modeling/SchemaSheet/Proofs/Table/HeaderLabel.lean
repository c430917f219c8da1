import SchemaSheet.Proofs.Table.HeaderLocality
import SchemaSheet.Proofs.Token.Placement
import SchemaSheet.Proofs.Token.Trimming

/-!
# What the header of a text says

The label of a header is its name and its schema.  A text has the same label
wherever it stands, and with or without the blanks around it.
-/

namespace SchemaSheet

namespace Text

theorem trim_append_blanks {text trail : Text}
    (allBlank : ∀ char ∈ trail, isBlank char = true) :
    trim (text ++ trail) = trim text := by
  have nothing : trail.dropWhile isBlank = [] :=
    List.dropWhile_eq_nil_iff.mpr allBlank
  have backward : ∀ char ∈ trail.reverse, isBlank char = true := by
    intro char member
    exact allBlank char (List.mem_reverse.mp member)
  rw [trim, trim, trimStart, trimStart, List.dropWhile_append]
  cases start : text.dropWhile isBlank with
  | nil => simp [nothing]
  | cons char rest =>
      simp only [List.isEmpty_cons, Bool.false_eq_true, if_false]
      rw [trimEnd, trimEnd, List.reverse_append,
        List.dropWhile_append_of_pos backward]

end Text

namespace Header

/-- The name of the table and its schema. -/
def label (header : Header) : Text × Option Text :=
  (header.name.text, header.schema)

/-- What the header of a text says, if it has one. -/
def labelOf (text : Text) : Option (Text × Option Text) :=
  (find? (Token.stream text)).map label

/-- The tokens without line breaks, with their offsets. -/
def byOffset (tokens : List Token) : List IndexedToken :=
  (Token.withoutBreaks tokens).map fun token => (token, token.offset)

/-- The label of what a search finds. -/
def labelAt (tokens : List IndexedToken) : Option (Text × Option Text) :=
  (firstAt? tokens).map fun found => found.2.label

/-- The token without its place. -/
def bare (token : IndexedToken) : IndexedToken :=
  (⟨token.1.kind, token.1.text, .start⟩, 0)

/-- The token that a lexeme gives, without its place. -/
def ofLexeme (lexeme : Lexeme) : IndexedToken :=
  (⟨lexeme.kind, lexeme.text, .start⟩, 0)

/-- Only the kinds and the texts of tokens matter for the label. -/
theorem labelAt_map_bare (tokens : List IndexedToken) :
    labelAt (tokens.map bare) = labelAt tokens := by
  have keeps : ∀ token, (bare token).1.kind = token.1.kind
      ∧ (bare token).1.text = token.1.text := by
    intro token
    exact ⟨rfl, rfl⟩
  have same := firstAt?_map keeps tokens
  have lifted := congrArg (Option.map label) same
  rw [Option.map_map, Option.map_map] at lifted
  exact lifted

theorem labelAt_of_map_bare {first second : List IndexedToken}
    (same : first.map bare = second.map bare) :
    labelAt first = labelAt second := by
  rw [← labelAt_map_bare first, same, labelAt_map_bare]

/-- The signs among lexemes, the first of which stands at `place`, as tokens
with their offsets. -/
def signsAt (place : Place) (lexemes : List Lexeme) : List IndexedToken :=
  byOffset (Token.streamAt place lexemes)

theorem signsAt_append (place : Place) (first second : List Lexeme) :
    signsAt place (first ++ second)
      = signsAt place first ++ signsAt (place.behind first) second := by
  simp [signsAt, byOffset, Token.withoutBreaks, Token.streamAt_append]

theorem signsAt_cons (place : Place) (lexeme : Lexeme) (rest : List Lexeme) :
    signsAt place (lexeme :: rest)
      = if lexeme.isSign then
          (⟨lexeme.kind, lexeme.text, place⟩, place.offset)
            :: signsAt (place.after lexeme) rest
        else signsAt (place.after lexeme) rest := by
  rw [signsAt, Token.streamAt_cons]
  cases skipped : lexeme.kind.isSkipped with
  | true =>
      simp only [Lexeme.isSign, skipped, if_true, Bool.not_true,
        Bool.false_and, Bool.false_eq_true, if_false]
      rfl
  | false =>
      simp only [Lexeme.isSign, skipped, Bool.not_false, Bool.true_and,
        Bool.false_eq_true, if_false, byOffset, Token.withoutBreaks,
        List.filter_cons]
      cases lexeme.kind != .lineBreak <;> rfl

theorem exists_of_mem_signsAt {place : Place} {lexemes : List Lexeme}
    {token : IndexedToken} (member : token ∈ signsAt place lexemes) :
    ∃ before lexeme after, lexemes = before ++ lexeme :: after
      ∧ token = (⟨lexeme.kind, lexeme.text, place.behind before⟩,
        (place.behind before).offset) := by
  obtain ⟨plain, kept, rfl⟩ := List.mem_map.mp member
  have streamed := (List.mem_filter.mp kept).1
  obtain ⟨before, lexeme, after, divided, made⟩ :=
    exists_of_mem_tokensAt (List.mem_filter.mp streamed).1
  exact ⟨before, lexeme, after, divided, by rw [made]; rfl⟩

theorem offset_le_of_mem_signsAt {place : Place} {lexemes : List Lexeme}
    {token : IndexedToken} (member : token ∈ signsAt place lexemes) :
    place.offset ≤ token.2 := by
  obtain ⟨before, lexeme, after, -, rfl⟩ := exists_of_mem_signsAt member
  rw [Place.offset_behind]
  exact Nat.le_add_right _ _

theorem lt_of_mem_signsAt {place : Place} {text : Text}
    {token : IndexedToken} (member : token ∈ signsAt place (lexemes text)) :
    token.2 < place.offset + text.length := by
  obtain ⟨before, lexeme, after, divided, rfl⟩ := exists_of_mem_signsAt member
  have present : lexeme ∈ lexemes text := by simp [divided]
  have nonempty := List.length_pos_iff.mpr
    (Lexeme.text_ne_nil_of_mem_lexemes present)
  have whole := congrArg List.length (flatMap_lexemes text)
  rw [divided] at whole
  simp only [List.flatMap_append, List.flatMap_cons,
    List.length_append] at whole
  rw [Place.offset_behind]
  omega

theorem map_bare_signsAt (place : Place) (lexemes : List Lexeme) :
    (signsAt place lexemes).map bare
      = (lexemes.filter Lexeme.isSign).map ofLexeme := by
  induction lexemes generalizing place with
  | nil => rfl
  | cons lexeme rest induction =>
      rw [signsAt_cons, List.filter_cons]
      split
      · rw [List.map_cons, induction, List.map_cons]
        rfl
      · exact induction _

theorem map_bare_significant (tokens : List Token) :
    (significant tokens).map bare = (byOffset tokens).map bare := by
  rw [byOffset, ← map_fst_significant, List.map_map, List.map_map]
  rfl

theorem byOffset_stream (text : Text) :
    byOffset (Token.stream text)
      = signsAt .start (lexemes text) ++ byOffset
        [⟨.endOfText, [], Place.start.behind (lexemes text)⟩] := by
  rw [Token.stream_eq, byOffset, Token.withoutBreaks, List.filter_append,
    List.map_append]
  rfl

theorem firstAt?_stream (text : Text) :
    firstAt? (byOffset (Token.stream text))
      = firstAt? (signsAt .start (lexemes text)) := by
  rw [byOffset_stream]
  apply firstAt?_append_inert
  intro token member
  rw [List.mem_singleton.mp member]
  simp [Inert]

theorem labelOf_eq (text : Text) :
    labelOf text = labelAt ((signs text).map ofLexeme) := by
  have counted : labelOf text = labelAt (significant (Token.stream text)) := by
    rw [labelOf, find?, ← map_snd_firstAt?, Option.map_map]
    rfl
  rw [counted, labelAt_of_map_bare (map_bare_significant _), labelAt,
    firstAt?_stream, ← labelAt, ← labelAt_map_bare, map_bare_signsAt]
  rfl

theorem labelAt_signsAt (place : Place) (text : Text) :
    labelAt (signsAt place (lexemes text)) = labelOf text := by
  rw [labelOf_eq, ← labelAt_map_bare, map_bare_signsAt]
  rfl

theorem inert_of_idle {idle : List Lexeme} (isIdle : Lexeme.Idle idle) :
    ∀ token ∈ idle.map ofLexeme, Inert token := by
  intro token member
  obtain ⟨lexeme, inside, rfl⟩ := List.mem_map.mp member
  simp [Inert, ofLexeme, isIdle lexeme inside]

/-- A text has no label that it does not have without the blanks around it. -/
theorem labelOf_trim (text : Text) :
    labelOf (Text.trim text) = labelOf text := by
  obtain ⟨front, back, frontIdle, backIdle, divided⟩ := Lexeme.signs_trim text
  rw [labelOf_eq text, divided, List.map_append, List.map_append, labelAt,
    firstAt?_append_inert _ (inert_of_idle backIdle),
    firstAt?_inert_append (inert_of_idle frontIdle), labelOf_eq]
  rfl

theorem labelOf_of_allBlank {text : Text}
    (allBlank : ∀ char ∈ text, isBlank char = true) : labelOf text = none := by
  rw [labelOf_eq, labelAt,
    firstAt?_of_inert (inert_of_idle (Lexeme.signs_of_allBlank allBlank))]
  rfl

theorem labelOf_append_blanks {text trail : Text}
    (allBlank : ∀ char ∈ trail, isBlank char = true) :
    labelOf (text ++ trail) = labelOf text := by
  rw [← labelOf_trim, Text.trim_append_blanks allBlank, labelOf_trim]

end Header

end SchemaSheet
