import SchemaSheet.Proofs.Text.Uppercase
import SchemaSheet.Proofs.Token.Placement

/-!
# Parts of a column

What holds of every column that a declaration declares: its name is plain and
not reserved, and its type, which is cut out of the statement, is not empty.
`Declaration.Parts` is what the tokens of a declaration tell of its column.
-/

namespace SchemaSheet

/-- A column with all of its fields, a plain name that is not reserved, and a
type that is not empty. -/
structure Column.WellFormed (column : Column) : Prop where
  name : ∃ name, column.name = some name ∧ Text.isPlainName name = true
    ∧ Text.upper name ∉ Declaration.reservedNames
  type : ∃ type, column.type = some type ∧ type ≠ []
  comment : ∃ comment, column.comment = some comment

namespace Declaration

theorem exists_of_closing? {depth : Nat} {tokens rest : List Token}
    {last : Token} (found : closing? depth tokens = some (last, rest)) :
    ∃ inner, tokens = inner ++ last :: rest ∧ last.kind = .closeParen := by
  induction tokens generalizing depth with
  | nil => cases found
  | cons token later induction =>
      have onward {next : Nat}
          (goesOn : closing? next later = some (last, rest)) :
          ∃ inner, token :: later = inner ++ last :: rest
            ∧ last.kind = .closeParen := by
        obtain ⟨inner, divided, closes⟩ := induction goesOn
        exact ⟨token :: inner, by rw [divided]; rfl, closes⟩
      rw [closing?] at found
      split at found
      · exact onward found
      case _ closes =>
        split at found
        · cases found
          exact ⟨[], rfl, closes⟩
        · exact onward found
      · exact onward found

/-- A type is its first token alone, or it goes on to a closing parenthesis. -/
theorem typeEnd_cases (type : Token) (rest : List Token) :
    typeEnd type rest = (type, rest)
      ∨ ∃ inner last later, rest = inner ++ last :: later
        ∧ last.kind = .closeParen ∧ typeEnd type rest = (last, later) := by
  unfold typeEnd
  split
  · exact .inl rfl
  case _ next later =>
    split
    · cases found : closing? 1 later with
      | none => exact .inl rfl
      | some closed =>
          obtain ⟨inner, divided, closes⟩ := exists_of_closing? found
          exact .inr ⟨next :: inner, closed.1, closed.2,
            by rw [divided]; rfl, closes, rfl⟩
    · exact .inl rfl

theorem typeEnd_mem (type : Token) (rest : List Token) :
    (typeEnd type rest).1 = type ∨ (typeEnd type rest).1 ∈ rest := by
  rcases typeEnd_cases type rest with alone
    | ⟨inner, last, later, rfl, -, found⟩
  · exact .inl (by rw [alone])
  · exact .inr (by simp [found])

/-- What a declaration that declares a column looks like, and the column that
it declares. -/
theorem column?_eq_some_iff {statement : Text} {declaration : List Token}
    {column : Column} :
    column? statement declaration = some column
      ↔ ∃ name type rest plain, declaration = name :: type :: rest
        ∧ name.plainName? = some plain ∧ type.isWord = true
        ∧ Text.upper plain.text ∉ reservedNames
        ∧ column =
          { name := some plain.text
            type := some (Text.upper (slice statement type.offset
              (typeEnd type rest).1.stop))
            comment := some (comment (typeEnd type rest).2) } := by
  constructor
  · intro found
    unfold column? at found
    split at found
    case _ name type rest =>
      split at found
      · cases found
      case _ plain named =>
        split at found
        · cases found
        case _ accepted =>
          simp only [Bool.or_eq_true, not_or, Bool.not_eq_true',
            Bool.not_eq_false, List.contains_iff_mem] at accepted
          refine ⟨name, type, rest, plain, rfl, named, accepted.1,
            accepted.2, ?_⟩
          simpa using found.symm
    case _ => cases found
  · rintro ⟨name, type, rest, plain, rfl, named, word, free, rfl⟩
    simp [column?, named, word, free]

theorem wellFormed_of_column? {statement : Text} {declaration : List Token}
    {column : Column}
    (tokens : declaration.Sublist (Token.stream statement))
    (found : column? statement declaration = some column) :
    column.WellFormed := by
  obtain ⟨name, type, rest, plain, rfl, -, word, free, rfl⟩ :=
    column?_eq_some_iff.mp found
  refine ⟨⟨_, rfl, plain.plain, free⟩, ⟨_, rfl, ?_⟩, ⟨_, rfl⟩⟩
  apply Text.upper_ne_nil
  have kind : type.kind = .word := by simpa [Token.isWord] using word
  have member : type ∈ Token.stream statement := tokens.mem (by simp)
  obtain ⟨before, after, whole, place, nonempty⟩ :=
    Token.exists_of_mem_stream member (by simp [kind])
  have positive := List.length_pos_iff.mpr nonempty
  have inside : type.offset < statement.length := by
    rw [place, whole]
    simp only [List.length_append]
    omega
  apply slice_ne_nil ?_ inside
  have ordered := (Token.pairwise_stream statement).sublist tokens
  have following := (List.pairwise_cons.mp
    (List.pairwise_cons.mp ordered).2).1
  rcases typeEnd_mem type rest with same | later
  · rw [same, Token.stop]
    omega
  · have precedes := following _ later
    simp only [Token.Precedes, Token.stop] at precedes ⊢
    omega

theorem typeEnd_ends (type : Token) (rest : List Token) :
    (typeEnd type rest).1 = type
      ∨ (typeEnd type rest).1.kind = .closeParen := by
  rcases typeEnd_cases type rest with alone
    | ⟨inner, last, later, -, closes, found⟩
  · exact .inl (by rw [alone])
  · exact .inr (by rw [found]; exact closes)

/-- What is known of a column before its type is cut out of the statement. -/
structure Parts where
  name : PlainName
  /-- The first token of the type. -/
  type : Token
  /-- The last token of the type. -/
  last : Token
  comment : Text
  isWord : type.isWord = true
  ends : last = type ∨ last.kind = .closeParen

namespace Parts

/-- The type has parameters, up to a closing parenthesis. -/
def hasParameters (parts : Parts) : Bool := parts.last.kind == .closeParen

theorem last_eq {parts : Parts} (bare : parts.hasParameters = false) :
    parts.last = parts.type := by
  rcases parts.ends with same | closes
  · exact same
  · exact absurd (beq_iff_eq.mpr closes) (ne_true_of_eq_false bare)

/-- The text of the type, as it stands in the statement. -/
def typeText (statement : Text) (parts : Parts) : Text :=
  slice statement parts.type.offset parts.last.stop

def column (statement : Text) (parts : Parts) : Column :=
  { name := some parts.name.text
    type := some (Text.upper (parts.typeText statement))
    comment := some parts.comment }

end Parts

/-- The parts of a declaration that declares a column. -/
def parts? : List Token → Option Parts
  | name :: type :: rest =>
      match name.plainName? with
      | none => none
      | some plain =>
          if accepted : type.isWord = true
              ∧ reservedNames.contains (Text.upper plain.text) = false then
            some
              { name := plain
                type
                last := (typeEnd type rest).1
                comment := comment (typeEnd type rest).2
                isWord := accepted.1
                ends := typeEnd_ends type rest }
          else none
  | _ => none

theorem column?_eq (statement : Text) (declaration : List Token) :
    column? statement declaration
      = (parts? declaration).map (Parts.column statement) := by
  match declaration with
  | [] => rfl
  | [_] => rfl
  | name :: type :: rest =>
      rw [column?, parts?]
      cases name.plainName? with
      | none => rfl
      | some plain =>
          simp only
          by_cases accepted : type.isWord = true
              ∧ reservedNames.contains (Text.upper plain.text) = false
          · rw [dif_pos accepted, accepted.1, accepted.2]
            rfl
          · have rejected : (!type.isWord
                || reservedNames.contains (Text.upper plain.text)) = true := by
              cases isWord : type.isWord with
              | false => rfl
              | true => simpa [isWord] using accepted
            rw [dif_neg accepted, if_pos rejected]
            rfl

end Declaration

end SchemaSheet
