import SchemaSheet.Proofs.Table.Likeness

/-!
# Layout

Blanks, comments and places decide nothing: two statements whose tokens have
the same kinds and texts are read alike.  Only a type with parameters is cut
out of the statement with what stands between its tokens, so only such types may
differ.
-/

namespace SchemaSheet

namespace Token

/-- The token without its place. -/
def lexeme (token : Token) : Lexeme := ⟨token.kind, token.text⟩

/-- The tokens of two texts differ in nothing but their places. -/
structure Respaced (text other : Text) (token another : Token) : Prop where
  lexeme : token.lexeme = another.lexeme
  member : token ∈ stream text
  otherMember : another ∈ stream other

variable {text other : Text} {token another : Token}

theorem Respaced.alike (respaced : Respaced text other token another) :
    token.Alike Eq Eq another := by
  obtain ⟨kind, piece, place⟩ := token
  obtain ⟨otherKind, otherPiece, otherPlace⟩ := another
  obtain ⟨rfl, rfl⟩ := Lexeme.mk.inj respaced.lexeme
  exact ⟨rfl, fun _ => rfl, optionRel_of_eq rfl, rfl, fun _ => rfl⟩

theorem respaced_stream
    (same : (stream text).map Token.lexeme = (stream other).map Token.lexeme) :
    List.Forall₂ (Respaced text other) (stream text) (stream other) := by
  apply (forall₂_of_map_eq same).imp
  rintro token another ⟨inText, inOther, lexeme⟩
  exact ⟨lexeme, inText, inOther⟩

theorem slice_of_isWord (member : token ∈ stream text)
    (isWord : token.isWord = true) :
    Declaration.slice text token.offset token.stop = token.text := by
  have proper : token.kind ≠ .endOfText := by
    rw [eq_of_beq isWord]
    decide
  exact slice_of_mem_stream member proper

end Token

namespace Declaration

/-- The parts make columns of the two texts that differ in nothing but the
parameters of their types. -/
structure Parts.Agree (text other : Text) (parts another : Parts) : Prop where
  name : (parts.column text).name = (another.column other).name
  comment : (parts.column text).comment = (another.column other).comment
  parameters : parts.hasParameters = another.hasParameters
  type : parts.hasParameters = false →
    (parts.column text).type = (another.column other).type

variable {text other : Text}

theorem Parts.Alike.agree {parts another : Parts}
    (alike : parts.Alike Eq Eq (Token.Respaced text other) another) :
    parts.Agree text other another := by
  have parameters : parts.hasParameters = another.hasParameters := by
    rw [hasParameters, hasParameters, alike.last.alike.kind]
  refine ⟨?_, ?_, parameters, ?_⟩
  · simp only [column, alike.name]
  · simp only [column, alike.comment]
  · intro bare
    have otherBare := parameters.symm.trans bare
    have sameText : parts.type.text = another.type.text :=
      congrArg Lexeme.text alike.type.lexeme
    simp only [column, typeText, last_eq bare, last_eq otherBare,
      Token.slice_of_isWord alike.type.member parts.isWord,
      Token.slice_of_isWord alike.type.otherMember another.isWord, sameText]

/-- Two declarations with the same lexemes, of which both or neither are
clauses, and both or neither declare a column. -/
structure Respaced (openings : List Opening) (text other : Text)
    (declaration another : List Token) : Prop where
  lexemes : declaration.map Token.lexeme = another.map Token.lexeme
  isClause : isClause openings declaration = isClause openings another
  accepted : (column? text declaration).isSome
    = (column? other another).isSome

theorem respaced (openings : List Opening) {declaration another : List Token}
    (pieces : List.Forall₂ (Token.Respaced text other) declaration another) :
    Respaced openings text other declaration another := by
  refine ⟨map_eq_of_forall₂ (fun _ _ => Token.Respaced.lexeme) pieces,
    isClause_alike (fun _ _ => Token.Respaced.alike) openings pieces, ?_⟩
  have parts := parts?_alike (fun _ _ => Token.Respaced.alike) rfl
    (fun _ _ same => congrArg _ (congrArg _ same)) pieces
  rw [column?_eq, column?_eq, Option.isSome_map, Option.isSome_map]
  generalize parts? declaration = found at parts ⊢
  generalize parts? another = otherFound at parts ⊢
  cases parts with
  | none => rfl
  | some alike => rfl

end Declaration

/-- Two surveys, of two texts, that end at the same index and whose columns
agree one by one. -/
structure Survey.Agree (openings : List Opening) (text other : Text)
    (header : Header) (survey another : Survey) : Prop where
  closing : survey.closing = another.closing
  columns : survey.columns
    = ((Located.ofHeader text header).parts openings survey.closing).map
      (Declaration.Parts.column text)
  otherColumns : another.columns
    = ((Located.ofHeader other header).parts openings another.closing).map
      (Declaration.Parts.column other)
  parts : List.Forall₂ (Declaration.Parts.Agree text other)
    ((Located.ofHeader text header).parts openings survey.closing)
    ((Located.ofHeader other header).parts openings another.closing)

/-- Two texts whose tokens have the same kinds and texts have the same header,
blocks that end alike, and the same declarations, of which the same are clauses
and the same declare columns.  The columns agree one by one, except for the
parameters of types. -/
theorem Located.agree_of_same_lexemes {text other : Text}
    (same : (Token.stream text).map Token.lexeme
      = (Token.stream other).map Token.lexeme) :
    Header.find? (Token.stream text) = Header.find? (Token.stream other)
      ∧ (∀ opening, Block.closeOf (Token.stream text) opening
        = Block.closeOf (Token.stream other) opening)
      ∧ (∀ openings opening closing,
        List.Forall₂ (Declaration.Respaced openings text other)
          (Block.declarations
            (Block.between (Token.stream text) opening closing))
          (Block.declarations
            (Block.between (Token.stream other) opening closing)))
      ∧ ∀ openings header survey,
        Survey.ofLocated openings (ofHeader text header) = .ok survey →
        ∃ another,
          Survey.ofLocated openings (ofHeader other header) = .ok another
            ∧ Survey.Agree openings text other header survey another := by
  have alike : ∀ ⦃token another⦄, Token.Respaced text other token another →
      token.Alike Eq Eq another := fun _ _ => Token.Respaced.alike
  have relate := Token.respaced_stream same
  refine ⟨Header.find?_eq alike relate, Block.closeOf_alike alike relate, ?_,
    ?_⟩
  · intro openings opening closing
    have pieces := Block.declarations_related alike
      (Block.between_related relate opening closing)
    exact pieces.imp fun _ _ => Declaration.respaced openings
  · intro openings header survey made
    obtain ⟨closing, closed, rfl⟩ := ofLocated_eq_ok_iff.mp made
    have otherClosed : Block.closeOf (Token.stream other) header.opening
        = .ok closing :=
      (Block.closeOf_alike alike relate header.opening).symm.trans closed
    have relateTokens : List.Forall₂ (Token.Respaced text other)
        (ofHeader text header).tokens (ofHeader other header).tokens := relate
    have parts := parts_alike alike rfl
      (fun _ _ same => congrArg _ (congrArg _ same)) relateTokens
      rfl openings closing
    refine ⟨_, ofLocated_eq_ok_iff.mpr ⟨closing, otherClosed, rfl⟩, rfl, ?_,
      ?_, parts.imp fun _ _ => Declaration.Parts.Alike.agree⟩
    · rw [columns_of_survey rfl, columns_eq_map]
      rfl
    · rw [columns_of_survey rfl, columns_eq_map]
      rfl

/-- A statement without needless blanks. -/
def tightText : Text := "CREATE TABLE t(a b(1,2))"

/-- The same statement with blanks and a comment. -/
def spacedText : Text := "CREATE /**/ TABLE t ( a b( 1 , 2 ) )"

theorem Located.find?_spaced :
    (Token.stream tightText).map Token.lexeme
        = (Token.stream spacedText).map Token.lexeme
      ∧ Header.find? (Token.stream tightText)
        = Header.find? (Token.stream spacedText) := by
  have same : (Token.stream tightText).map Token.lexeme
      = (Token.stream spacedText).map Token.lexeme := by
    decide +kernel
  exact ⟨same, (agree_of_same_lexemes same).1⟩

end SchemaSheet
