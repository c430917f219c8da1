import SchemaSheet.Table.Declaration
import SchemaSheet.Token.Stream

/-!
# Places of tokens

Every token of a text is a piece of the text at its offset, and the tokens
follow each other without overlapping.  Lines and columns play no part here.
-/

namespace SchemaSheet

namespace Place

/-- The place behind lexemes of which the first stands at `place`. -/
def behind (place : Place) (lexemes : List Lexeme) : Place :=
  lexemes.foldl Place.after place

@[simp] theorem behind_nil (place : Place) : place.behind [] = place := rfl

@[simp] theorem behind_cons (place : Place) (lexeme : Lexeme)
    (rest : List Lexeme) :
    place.behind (lexeme :: rest) = (place.after lexeme).behind rest := rfl

theorem behind_append (place : Place) (first second : List Lexeme) :
    place.behind (first ++ second) = (place.behind first).behind second :=
  List.foldl_append

@[simp] theorem offset_after (place : Place) (lexeme : Lexeme) :
    (place.after lexeme).offset = place.offset + lexeme.text.length := by
  unfold after
  split
  · rfl
  · split <;> rfl

theorem offset_behind (place : Place) (lexemes : List Lexeme) :
    (place.behind lexemes).offset
      = place.offset + (lexemes.flatMap Lexeme.text).length := by
  induction lexemes generalizing place with
  | nil => rfl
  | cons lexeme rest induction =>
      rw [behind_cons, induction, offset_after]
      simp only [List.flatMap_cons, List.length_append]
      omega

theorem offset_behind_start (lexemes : List Lexeme) :
    (Place.start.behind lexemes).offset
      = (lexemes.flatMap Lexeme.text).length := by
  rw [offset_behind]
  exact Nat.zero_add _

end Place

/-- Lexemes as tokens, the first of which stands at `place`. -/
def tokensAt (place : Place) : List Lexeme → List Token
  | [] => []
  | lexeme :: rest =>
      ⟨lexeme.kind, lexeme.text, place⟩ :: tokensAt (place.after lexeme) rest

theorem placed_eq (place : Place) (lexemes : List Lexeme) :
    placed place lexemes
      = tokensAt place lexemes
        ++ [⟨.endOfText, [], place.behind lexemes⟩] := by
  induction lexemes generalizing place with
  | nil => rfl
  | cons lexeme rest induction => simp [placed, tokensAt, induction]

theorem tokensAt_append (place : Place) (first second : List Lexeme) :
    tokensAt place (first ++ second)
      = tokensAt place first ++ tokensAt (place.behind first) second := by
  induction first generalizing place with
  | nil => rfl
  | cons lexeme rest induction => simp [tokensAt, induction]

/-- Every token comes from a lexeme and stands behind the lexemes before. -/
theorem exists_of_mem_tokensAt {place : Place} {lexemes : List Lexeme}
    {token : Token} (member : token ∈ tokensAt place lexemes) :
    ∃ before lexeme after, lexemes = before ++ lexeme :: after ∧
      token = ⟨lexeme.kind, lexeme.text, place.behind before⟩ := by
  induction lexemes generalizing place with
  | nil => cases member
  | cons lexeme rest induction =>
      rcases List.mem_cons.mp member with here | later
      · exact ⟨[], lexeme, rest, rfl, here⟩
      · obtain ⟨before, found, after, divided, made⟩ := induction later
        exact ⟨lexeme :: before, found, after, by rw [divided]; rfl, made⟩

theorem offset_le_of_mem_tokensAt {place : Place} {lexemes : List Lexeme}
    {token : Token} (member : token ∈ tokensAt place lexemes) :
    place.offset ≤ token.offset := by
  obtain ⟨before, lexeme, after, -, made⟩ := exists_of_mem_tokensAt member
  rw [made, Token.offset, Place.offset_behind]
  omega

/-- One token ends before the other begins. -/
def Token.Precedes (earlier later : Token) : Prop :=
  earlier.stop ≤ later.offset

theorem pairwise_tokensAt (place : Place) (lexemes : List Lexeme) :
    (tokensAt place lexemes).Pairwise Token.Precedes := by
  induction lexemes generalizing place with
  | nil => exact List.Pairwise.nil
  | cons lexeme rest induction =>
      refine List.Pairwise.cons ?_ (induction (place.after lexeme))
      intro later member
      have behind := offset_le_of_mem_tokensAt member
      rw [Place.offset_after] at behind
      exact behind

theorem Lexeme.text_ne_nil_of_mem_lexemes {text : Text} {lexeme : Lexeme}
    (member : lexeme ∈ lexemes text) : lexeme.text ≠ [] := by
  induction text using lexemes.induct with
  | case1 => simp [lexemes] at member
  | case2 char text kind length found induction =>
      rw [lexemes] at member
      simp only [found, List.mem_cons] at member
      rcases member with here | later
      · simp [here]
      · exact induction later

namespace Declaration

theorem slice_append (before piece after : Text) :
    slice (before ++ piece ++ after) before.length
      (before.length + piece.length) = piece := by
  simp [slice]

/-- What is cut out stands in the text between both offsets. -/
theorem exists_slice {text : Text} {start stop : Nat} (forward : start ≤ stop)
    (inside : stop ≤ text.length) :
    ∃ before after, text = before ++ slice text start stop ++ after
      ∧ before.length = start
      ∧ (before ++ slice text start stop).length = stop := by
  have rest : slice text start stop ++ text.drop stop = text.drop start := by
    have behind : text.drop stop = (text.drop start).drop (stop - start) := by
      rw [List.drop_drop, Nat.add_sub_cancel' forward]
    rw [slice, behind, List.take_append_drop]
  refine ⟨text.take start, text.drop stop, ?_, ?_, ?_⟩
  · rw [List.append_assoc, rest, List.take_append_drop]
  · rw [List.length_take]
    omega
  · rw [List.length_append, slice, List.length_take, List.length_take,
      List.length_drop]
    omega

theorem slice_ne_nil {text : Text} {start stop : Nat} (forward : start < stop)
    (inside : start < text.length) : slice text start stop ≠ [] := by
  intro empty
  have length := congrArg List.length empty
  simp only [slice, List.length_take, List.length_drop,
    List.length_nil] at length
  omega

end Declaration

namespace Token

/-- The tokens that lexemes give, the first of which stands at `place`. -/
def streamAt (place : Place) (lexemes : List Lexeme) : List Token :=
  (tokensAt place lexemes).filter fun token => !token.kind.isSkipped

@[simp] theorem streamAt_nil (place : Place) : streamAt place [] = [] := rfl

theorem streamAt_append (place : Place) (first second : List Lexeme) :
    streamAt place (first ++ second)
      = streamAt place first ++ streamAt (place.behind first) second := by
  rw [streamAt, tokensAt_append, List.filter_append]
  rfl

theorem streamAt_cons (place : Place) (lexeme : Lexeme)
    (rest : List Lexeme) :
    streamAt place (lexeme :: rest)
      = if lexeme.kind.isSkipped then streamAt (place.after lexeme) rest
        else ⟨lexeme.kind, lexeme.text, place⟩
          :: streamAt (place.after lexeme) rest := by
  simp only [streamAt, tokensAt, List.filter_cons, Bool.not_eq_true']
  cases lexeme.kind.isSkipped <;> rfl

theorem exists_of_mem_streamAt {place : Place} {lexemes : List Lexeme}
    {token : Token} (member : token ∈ streamAt place lexemes) :
    ∃ lexeme ∈ lexemes, token.kind = lexeme.kind := by
  obtain ⟨before, lexeme, after, divided, made⟩ :=
    exists_of_mem_tokensAt (List.mem_filter.mp member).1
  exact ⟨lexeme, by simp [divided], by rw [made]⟩

theorem stream_eq (text : Text) :
    stream text
      = streamAt .start (lexemes text)
        ++ [⟨.endOfText, [], Place.start.behind (lexemes text)⟩] := by
  rw [stream, placed_eq, List.filter_append]
  rfl

theorem pairwise_stream (text : Text) :
    (stream text).Pairwise Precedes := by
  rw [stream, placed_eq]
  apply List.Pairwise.filter
  apply List.pairwise_append.mpr
  refine ⟨pairwise_tokensAt _ _, List.pairwise_singleton _ _, ?_⟩
  intro earlier member last lastMember
  obtain ⟨before, lexeme, after, divided, made⟩ :=
    exists_of_mem_tokensAt member
  rw [List.mem_singleton.mp lastMember, made, Precedes, stop, offset, offset,
    Place.offset_behind, Place.offset_behind, divided]
  simp only [List.flatMap_append, List.flatMap_cons, List.length_append]
  omega

/-- A token that is not the mark of the end stands in the text where its place
says. -/
theorem exists_of_mem_stream {text : Text} {token : Token}
    (member : token ∈ stream text) (proper : token.kind ≠ .endOfText) :
    ∃ before after, text = before ++ token.text ++ after ∧
      token.offset = before.length ∧ token.text ≠ [] := by
  rw [stream_eq, List.mem_append] at member
  rcases member with inner | last
  · obtain ⟨before, lexeme, after, divided, made⟩ :=
      exists_of_mem_tokensAt (List.mem_filter.mp inner).1
    have whole := flatMap_lexemes text
    have nonempty : lexeme.text ≠ [] := by
      apply Lexeme.text_ne_nil_of_mem_lexemes
      rw [divided]
      simp
    rw [divided] at whole
    refine ⟨before.flatMap Lexeme.text, after.flatMap Lexeme.text, ?_, ?_, ?_⟩
    · rw [← whole, made]
      simp
    · rw [made, offset, Place.offset_behind_start]
    · rw [made]
      exact nonempty
  · rw [List.mem_singleton.mp last] at proper
    exact absurd rfl proper

theorem slice_of_mem_stream {text : Text} {token : Token}
    (member : token ∈ stream text) (proper : token.kind ≠ .endOfText) :
    Declaration.slice text token.offset token.stop = token.text := by
  obtain ⟨before, after, whole, place, -⟩ := exists_of_mem_stream member proper
  rw [stop, place, whole]
  exact Declaration.slice_append before token.text after

section Order

variable {text : Text} {token other : Token} {tokens : List Token}

theorem precedes_of_lt {index later : Nat}
    (found : (stream text)[index]? = some token)
    (otherFound : (stream text)[later]? = some other) (before : index < later) :
    token.Precedes other := by
  obtain ⟨inside, rfl⟩ := List.getElem?_eq_some_iff.mp found
  obtain ⟨otherInside, rfl⟩ := List.getElem?_eq_some_iff.mp otherFound
  exact List.pairwise_iff_getElem.mp (pairwise_stream text) index later inside
    otherInside before

theorem offset_lt_stop (member : token ∈ stream text)
    (proper : token.kind ≠ .endOfText) : token.offset < token.stop := by
  obtain ⟨-, -, -, -, nonempty⟩ := exists_of_mem_stream member proper
  have positive := List.length_pos_iff.mpr nonempty
  rw [stop]
  omega

theorem Precedes.stop_le (precedes : token.Precedes other) :
    token.stop ≤ other.stop :=
  Nat.le_trans precedes (Nat.le_add_right _ _)

theorem stop_le_of_mem {last : Token} (ordered : tokens.Pairwise Precedes)
    (ends : tokens.getLast? = some last) (member : token ∈ tokens) :
    token.stop ≤ last.stop := by
  obtain ⟨front, rfl⟩ := List.getLast?_eq_some_iff.mp ends
  rcases List.mem_append.mp member with inner | same
  · have precedes := (List.pairwise_append.mp ordered).2.2 token inner last
      List.mem_cons_self
    exact precedes.stop_le
  · exact Nat.le_of_eq (congrArg stop (List.mem_singleton.mp same))

end Order

end Token

end SchemaSheet
