import SchemaSheet.Proofs.Table.Carrying
import SchemaSheet.Proofs.Table.ColumnParts
import SchemaSheet.Proofs.Table.Draft

/-!
# Columns of drafts

A column that is written is a piece of a declaration, no clause, and declares
the column that is meant.
-/

namespace SchemaSheet

namespace Parameter

theorem kind_of_mem_readInner {parameters : List Parameter} {lexeme : Lexeme}
    (member : lexeme ∈ readInner parameters) :
    lexeme.kind = .number ∨ lexeme.kind = .quotedText
      ∨ lexeme.kind = .comma := by
  induction parameters with
  | nil => cases member
  | cons first others induction =>
      have here : first.lexeme.kind = .number
          ∨ first.lexeme.kind = .quotedText := by
        cases first with
        | digits text nonempty allDigits => exact .inl rfl
        | literal content => exact .inr rfl
      cases others with
      | nil =>
          simp only [readInner, List.map_cons, List.map_nil,
            List.intercalate_singleton, List.mem_singleton] at member
          rw [member]
          exact here.imp_right .inl
      | cons second others =>
          simp only [readInner, List.map_cons, List.intercalate_cons_cons,
            List.mem_append, List.mem_singleton, or_assoc] at member
          rcases member with rfl | rfl | later
          · exact here.imp_right .inl
          · exact .inr (.inr rfl)
          · exact induction (by simpa [readInner] using later)

theorem flatMap_readAll (parameters : List Parameter) :
    (readAll parameters).flatMap Lexeme.text = writeAll parameters := by
  have read := lexemes_writeAll parameters []
  simp only [lexemes, List.append_nil] at read
  rw [← read, flatMap_lexemes]

theorem exists_streamAt_readAll (first : Parameter) (others : List Parameter)
    (place : Place) :
    ∃ paren inner last,
      Token.streamAt place (readAll (first :: others))
        = paren :: (inner ++ [last])
      ∧ paren.kind = .openParen ∧ last.kind = .closeParen
      ∧ (∀ token ∈ inner, token.kind = .number ∨ token.kind = .quotedText
        ∨ token.kind = .comma)
      ∧ last.stop = place.offset + (writeAll (first :: others)).length := by
  let front : List Lexeme := ⟨.openParen, "("⟩ :: readInner (first :: others)
  have shape : readAll (first :: others) = front ++ [⟨.closeParen, ")"⟩] := rfl
  have length := congrArg List.length (flatMap_readAll (first :: others))
  rw [shape, List.flatMap_append, List.length_append] at length
  refine ⟨⟨.openParen, "(", place⟩,
    Token.streamAt (place.after ⟨.openParen, "("⟩)
      (readInner (first :: others)),
    ⟨.closeParen, ")", place.behind front⟩, ?_, rfl, rfl, ?_, ?_⟩
  · rw [shape, Token.streamAt_append, Token.streamAt_cons]
    rfl
  · intro token member
    obtain ⟨lexeme, inside, kind⟩ := Token.exists_of_mem_streamAt member
    rw [kind]
    exact kind_of_mem_readInner inside
  · rw [Token.stop, Token.offset, Place.offset_behind, ← length, Nat.add_assoc]
    rfl

theorem carries_readAll (parameters : List Parameter) (place : Place) :
    Block.Carries 0 0 (Token.streamAt place (readAll parameters)) := by
  cases parameters with
  | nil => exact .nil 0
  | cons first others =>
      obtain ⟨paren, inner, last, divided, opens, closes, kinds, -⟩ :=
        exists_streamAt_readAll first others place
      have isInner : ∀ token ∈ inner, Block.IsInner 1 token := by
        intro token member
        rcases kinds token member with kind | kind | kind <;>
          simp [Block.IsInner, kind]
      rw [divided]
      exact (Block.Carries.opening opens).append
        ((Block.Carries.inner isInner).append (.closing closes))

theorem typeEnd_readAll (parameters : List Parameter) {type : Token}
    {place : Place} {rest : List Token} (adjacent : type.stop = place.offset)
    (ends : ∀ token ∈ rest.head?, token.kind ≠ .openParen) :
    ∃ last, Declaration.typeEnd type
        (Token.streamAt place (readAll parameters) ++ rest) = (last, rest)
      ∧ last.stop = place.offset + (writeAll parameters).length := by
  cases parameters with
  | nil =>
      refine ⟨type, ?_, by simpa [writeAll] using adjacent⟩
      cases rest with
      | nil => rfl
      | cons token later =>
          have other := ends token rfl
          simp [readAll, Declaration.typeEnd, other]
  | cons first others =>
      obtain ⟨paren, inner, last, divided, opens, closes, kinds, stop⟩ :=
        exists_streamAt_readAll first others place
      have noOpening : ∀ token ∈ inner, token.kind ≠ .openParen := by
        intro token member
        rcases kinds token member with kind | kind | kind <;> simp [kind]
      have noClosing : ∀ token ∈ inner, token.kind ≠ .closeParen := by
        intro token member
        rcases kinds token member with kind | kind | kind <;> simp [kind]
      have passed : Declaration.closing? 1 (inner ++ last :: rest)
          = some (last, rest) := by
        rw [Declaration.closing?_append noOpening noClosing]
        simp [Declaration.closing?, closes]
      refine ⟨last, ?_, stop⟩
      rw [divided]
      simp [Declaration.typeEnd, opens, passed]

end Parameter

namespace QuotedName

/-- The name as a token. -/
def token (name : QuotedName) (place : Place) : Token :=
  ⟨.quotedName, name.write, place⟩

theorem plainName?_token (name : QuotedName) (place : Place) :
    (name.token place).plainName? = some name.name := by
  have isQuote : isQuote name.quote.mark = true := by
    cases name.quote <;> decide
  have content : (name.token place).content = name.name.text :=
    Text.unquote_quoted isQuote name.backslash_not_mem
  have isName : (name.token place).isName = true := rfl
  simp [Token.plainName?, isName, content, name.name.plain]

end QuotedName

namespace ColumnDraft

/-- The place of the type. -/
def typePlace (draft : ColumnDraft) (place : Place) : Place :=
  place.behind [draft.name.lexeme, ⟨.blank, " "⟩]

/-- The place behind the type. -/
def behindType (draft : ColumnDraft) (place : Place) : Place :=
  (draft.typePlace place).behind draft.readType

def typeToken (draft : ColumnDraft) (place : Place) : Token :=
  ⟨.word, draft.word.text, draft.typePlace place⟩

def parameterTokens (draft : ColumnDraft) (place : Place) : List Token :=
  Token.streamAt ((draft.typePlace place).after ⟨.word, draft.word.text⟩)
    (Parameter.readAll draft.parameters)

def commentTokens (draft : ColumnDraft) (place : Place) : List Token :=
  Token.streamAt (draft.behindType place)
    [⟨.blank, " "⟩, ⟨.word, "COMMENT"⟩, ⟨.blank, " "⟩,
      ⟨.quotedText, Text.quoted '\'' draft.comment.text⟩]

theorem streamAt_read (draft : ColumnDraft) (place : Place) :
    Token.streamAt place draft.read
      = draft.name.token place :: draft.typeToken place
        :: (draft.parameterTokens place ++ draft.commentTokens place) := by
  have divided : draft.read
      = [draft.name.lexeme, ⟨.blank, " "⟩] ++ (draft.readType
        ++ [⟨.blank, " "⟩, ⟨.word, "COMMENT"⟩, ⟨.blank, " "⟩,
          ⟨.quotedText, Text.quoted '\'' draft.comment.text⟩]) := rfl
  rw [divided, Token.streamAt_append, Token.streamAt_append]
  rfl

theorem flatMap_readType (draft : ColumnDraft) :
    draft.readType.flatMap Lexeme.text = draft.type := by
  rw [readType, List.flatMap_cons, Parameter.flatMap_readAll]
  rfl

theorem flatMap_read (draft : ColumnDraft) :
    draft.read.flatMap Lexeme.text = draft.write := by
  simp [read, write, flatMap_readType, QuotedName.lexeme, Text.ofString,
    Text.ofChars]

theorem offset_typePlace (draft : ColumnDraft) (place : Place) :
    (draft.typePlace place).offset
      = place.offset + (draft.name.write ++ " ").length := by
  rw [typePlace, Place.offset_behind]
  rfl

/-- The comment is a text behind the word for comments. -/
theorem exists_commentTokens (draft : ColumnDraft) (place : Place) :
    ∃ word text, draft.commentTokens place = [word, text]
      ∧ word.kind = .word ∧ word.text = "COMMENT"
      ∧ text.kind = .quotedText
      ∧ text.text = Text.quoted '\'' draft.comment.text :=
  ⟨_, _, rfl, rfl, rfl, rfl, rfl⟩

theorem comment_commentTokens (draft : ColumnDraft) (place : Place) :
    Declaration.comment (draft.commentTokens place) = draft.comment.text := by
  obtain ⟨word, text, tokens, wordKind, wordText, textKind, textText⟩ :=
    draft.exists_commentTokens place
  have upper : Text.upper "COMMENT" = "COMMENT" :=
    (keyword_spec _ (by simp [keywords])).2.2
  have announces : word.isThe "COMMENT" = true := by
    simp [Token.isThe, Token.isWord, Token.upper, wordKind, wordText, upper]
  have isText : text.isText = true := by simp [Token.isText, textKind]
  have content : text.content = draft.comment.text := by
    rw [Token.content, textText]
    exact Text.unquote_quoted (by decide) draft.comment.clean
  simp [tokens, Declaration.comment, announces, isText, content]

theorem carries_read (draft : ColumnDraft) (place : Place) :
    Block.Carries 0 0 (Token.streamAt place draft.read) := by
  obtain ⟨word, text, tokens, wordKind, -, textKind, -⟩ :=
    draft.exists_commentTokens place
  have front : ∀ token ∈ [draft.name.token place, draft.typeToken place],
      Block.IsInner 0 token := by
    simp [Block.IsInner, QuotedName.token, typeToken]
  have back : ∀ token ∈ [word, text], Block.IsInner 0 token := by
    simp [Block.IsInner, wordKind, textKind]
  rw [streamAt_read, tokens]
  exact (Block.Carries.inner front).append
    ((Parameter.carries_readAll _ _).append (.inner back))

/-- The tokens of the draft declare the column that is meant, where the draft
stands in a statement. -/
theorem column?_read (draft : ColumnDraft) {statement before after : Text}
    {place : Place} (stands : statement = before ++ draft.write ++ after)
    (offset : place.offset = before.length) :
    Declaration.column? statement (Token.streamAt place draft.read)
      = some draft.column := by
  obtain ⟨word, text, tokens, wordKind, -, -, -⟩ :=
    draft.exists_commentTokens place
  have adjacent : (draft.typeToken place).stop
      = ((draft.typePlace place).after ⟨.word, draft.word.text⟩).offset := by
    rw [Place.offset_after]
    rfl
  have ends : ∀ token ∈ (draft.commentTokens place).head?,
      token.kind ≠ .openParen := by
    simp [tokens, wordKind]
  obtain ⟨last, ended, stop⟩ :=
    Parameter.typeEnd_readAll draft.parameters adjacent ends
  have slice : Declaration.slice statement (draft.typeToken place).offset
      last.stop = draft.type := by
    have start : (draft.typeToken place).offset
        = (before ++ (draft.name.write ++ " ")).length := by
      rw [List.length_append, ← offset]
      exact draft.offset_typePlace place
    have length : last.stop
        = (before ++ (draft.name.write ++ " ")).length + draft.type.length := by
      rw [stop, ← adjacent, ← start, type, List.length_append, Token.stop,
        Nat.add_assoc]
      rfl
    have divided : statement
        = before ++ (draft.name.write ++ " ") ++ draft.type
          ++ (" COMMENT " ++ Text.quoted '\'' draft.comment.text ++ after) := by
      simp [stands, write]
    rw [start, length, divided, Declaration.slice_append]
  refine Declaration.column?_eq_some_iff.mpr ⟨_, _, _, draft.name.name,
    draft.streamAt_read place, draft.name.plainName?_token place, rfl,
    draft.unreserved, ?_⟩
  rw [parameterTokens, ended]
  simp only [slice, comment_commentTokens, column]

theorem isClause_read (draft : ColumnDraft) {openings : List Opening}
    (proper : ∀ opening ∈ openings, opening ≠ []) (place : Place) :
    Declaration.isClause openings (Token.streamAt place draft.read)
      = false := by
  simp only [Declaration.isClause, List.any_eq_false, streamAt_read]
  intro opening member
  cases opening with
  | nil => exact absurd rfl (proper [] member)
  | cons word words =>
      simp [Opening.opens, Token.isThe, Token.isWord, QuotedName.token]

end ColumnDraft

end SchemaSheet
