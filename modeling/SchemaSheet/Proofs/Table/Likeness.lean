import Mathlib.Data.List.Forall2
import SchemaSheet.Proofs.Table.Outcome

/-!
# Statements that are read alike

Every stage of the reading asks little of a token: its kind, its word in upper
case, the plain name that it gives, and whether it is a text.  If two token
lists agree in this, token by token, then they have the same header, the same
block and the same declarations, and what differs between their columns comes
from how names and texts differ, and from the slices that are cut out as types.
-/

namespace SchemaSheet

theorem map_eq_of_forall₂ {α β γ : Type} {related : α → β → Prop}
    {first : α → γ} {second : β → γ} {items : List α} {others : List β}
    (same : ∀ ⦃item other⦄, related item other → first item = second other)
    (paired : List.Forall₂ related items others) :
    items.map first = others.map second := by
  induction paired with
  | nil => rfl
  | cons head tail induction =>
      rw [List.map_cons, List.map_cons, same head, induction]

theorem forall₂_of_map_eq {α β : Type} {image : α → β} {items others : List α}
    (same : items.map image = others.map image) :
    List.Forall₂ (fun item other => item ∈ items ∧ other ∈ others
      ∧ image item = image other) items others := by
  have paired : List.Forall₂ Eq (items.map image) (others.map image) := by
    rw [same]
    exact List.forall₂_refl _
  rw [List.forall₂_map_left_iff, List.forall₂_map_right_iff] at paired
  rw [List.forall₂_iff_zip] at paired ⊢
  refine ⟨paired.1, ?_⟩
  intro item other member
  obtain ⟨inItems, inOthers⟩ := List.of_mem_zip member
  exact ⟨inItems, inOthers, paired.2 member⟩

theorem optionRel_of_eq {α : Type} {found other : Option α}
    (same : found = other) : Option.Rel Eq found other := by
  cases same
  cases found with
  | none => exact .none
  | some value => exact .some rfl

/-- The reading treats the tokens alike.  Their names may differ as `same`
allows, and their contents as `said` does. -/
structure Token.Alike (same : PlainName → PlainName → Prop)
    (said : Text → Text → Prop) (token other : Token) : Prop where
  kind : token.kind = other.kind
  upper : token.kind = .word → token.upper = other.upper
  named : Option.Rel same token.plainName? other.plainName?
  isText : token.isText = other.isText
  content : token.isText = true → said token.content other.content

/-- The headers stand at the same place, with names that may differ as `same`
allows. -/
structure Header.Alike (same : PlainName → PlainName → Prop)
    (header other : Header) : Prop where
  qualifiers : List.Forall₂ same header.qualifiers other.qualifiers
  name : same header.name other.name
  opening : header.opening = other.opening

theorem Header.Alike.eq {header other : Header}
    (alike : header.Alike Eq other) : header = other := by
  obtain ⟨qualifiers, name, opening⟩ := header
  obtain ⟨otherQualifiers, otherName, otherOpening⟩ := other
  obtain ⟨sameQualifiers, rfl, rfl⟩ := alike
  obtain rfl : qualifiers = otherQualifiers := by
    simpa only [List.forall₂_eq_eq_eq] using sameQualifiers
  rfl

/-- Parts that are read alike: their tokens are related. -/
structure Declaration.Parts.Alike (same : PlainName → PlainName → Prop)
    (said : Text → Text → Prop) (related : Token → Token → Prop)
    (parts other : Parts) : Prop where
  name : same parts.name other.name
  type : related parts.type other.type
  last : related parts.last other.last
  comment : said parts.comment other.comment

namespace Token.Alike

variable {same : PlainName → PlainName → Prop} {said : Text → Text → Prop}
  {token other : Token}

theorem isWord (alike : token.Alike same said other) :
    token.isWord = other.isWord := by
  rw [Token.isWord, Token.isWord, alike.kind]

theorem isThe (alike : token.Alike same said other) (word : Text) :
    token.isThe word = other.isThe word := by
  unfold Token.isThe
  rw [← alike.isWord]
  cases isWord : token.isWord with
  | false => rfl
  | true => rw [alike.upper (eq_of_beq isWord)]

theorem isAnyOf (alike : token.Alike same said other) (words : List Text) :
    token.isAnyOf words = other.isAnyOf words := by
  unfold Token.isAnyOf
  rw [← alike.isWord]
  cases isWord : token.isWord with
  | false => rfl
  | true => rw [alike.upper (eq_of_beq isWord)]

theorem separates (alike : token.Alike same said other) (depth : Int) :
    Block.separates depth token = Block.separates depth other := by
  rw [Block.separates, Block.separates, alike.kind]

theorem step (alike : token.Alike same said other) :
    Block.step token = Block.step other := by
  rw [Block.step, Block.step, alike.kind]

end Token.Alike

section Reading

variable {same : PlainName → PlainName → Prop} {said : Text → Text → Prop}
  {related : Token → Token → Prop}
  (alike : ∀ ⦃token other⦄, related token other → token.Alike same said other)

namespace Header

/-- The tokens are related and have the same index. -/
def Paired (related : Token → Token → Prop)
    (token other : IndexedToken) : Prop :=
  related token.1 other.1 ∧ token.2 = other.2

theorem zipIdx_paired {tokens others : List Token}
    (relate : List.Forall₂ related tokens others) (index : Nat) :
    List.Forall₂ (Paired related) (tokens.zipIdx index)
      (others.zipIdx index) := by
  induction relate generalizing index with
  | nil => exact .nil
  | cons first rest induction =>
      exact .cons ⟨first, rfl⟩ (induction (index + 1))

include alike

theorem significant_paired {tokens others : List Token}
    (relate : List.Forall₂ related tokens others) :
    List.Forall₂ (Paired related) (significant tokens)
      (significant others) := by
  apply List.rel_filter ?_ (zipIdx_paired relate 0)
  intro token other paired
  simp only [(alike paired.1).kind]

variable {tokens others : List IndexedToken}

theorem skipReplacement_paired
    (paired : List.Forall₂ (Paired related) tokens others) :
    List.Forall₂ (Paired related) (skipReplacement tokens)
      (skipReplacement others) := by
  cases paired with
  | nil => exact .nil
  | cons first rest =>
      cases rest with
      | nil => exact .cons first .nil
      | cons second later =>
          simp only [skipReplacement, (alike first.1).isThe,
            (alike second.1).isThe]
          split
          · exact later
          · exact .cons first (.cons second later)

theorem skipModifier_paired
    (paired : List.Forall₂ (Paired related) tokens others) :
    List.Forall₂ (Paired related) (skipModifier tokens)
      (skipModifier others) := by
  cases paired with
  | nil => exact .nil
  | cons first rest =>
      simp only [skipModifier, (alike first.1).isAnyOf]
      split
      · exact rest
      · exact .cons first rest

theorem pass?_paired (word : Text)
    (paired : List.Forall₂ (Paired related) tokens others) :
    Option.Rel (List.Forall₂ (Paired related)) (pass? word tokens)
      (pass? word others) := by
  cases paired with
  | nil => exact .none
  | cons first rest =>
      simp only [pass?, (alike first.1).isThe]
      split
      · exact .some rest
      · exact .none

theorem skipCondition_paired
    (paired : List.Forall₂ (Paired related) tokens others) :
    List.Forall₂ (Paired related) (skipCondition tokens)
      (skipCondition others) := by
  cases paired with
  | nil => exact .nil
  | cons first rest =>
      cases rest with
      | nil => exact .cons first .nil
      | cons second later =>
          cases later with
          | nil => exact .cons first (.cons second .nil)
          | cons third last =>
              simp only [skipCondition, (alike first.1).isThe,
                (alike second.1).isThe, (alike third.1).isThe]
              split
              · exact last
              · exact .cons first (.cons second (.cons third last))

theorem names?_alike
    (paired : List.Forall₂ (Paired related) tokens others) :
    Option.Rel (Alike same) (names? tokens) (names? others) := by
  induction tokens using names?.induct generalizing others with
  | case1 first next rest nameless =>
      obtain _ | @⟨_, one, _, _, sameFirst, _ | _⟩ := paired
      have named := (alike sameFirst.1).named
      rw [nameless] at named
      cases otherNamed : one.1.plainName? with
      | none =>
          simp only [names?, nameless, otherNamed]
          exact .none
      | some name => rw [otherNamed] at named; cases named
  | case2 first next rest name named isDot induction =>
      obtain _ | @⟨_, one, _, _, sameFirst,
        _ | @⟨_, two, _, later, sameNext, paired⟩⟩ := paired
      have names := (alike sameFirst.1).named
      have otherDot : two.1.kind = .dot :=
        (alike sameNext.1).kind.symm.trans isDot
      rw [named] at names
      cases otherNamed : one.1.plainName? with
      | none => rw [otherNamed] at names; cases names
      | some otherName =>
          rw [otherNamed] at names
          simp only [names?, named, otherNamed, isDot, otherDot, if_true]
          have further := induction paired
          generalize names? rest = header at further ⊢
          generalize names? later = otherHeader at further ⊢
          cases further with
          | none => exact .none
          | some alikeHeaders =>
              cases names with
              | some sameName =>
                  exact .some
                    { alikeHeaders with
                      qualifiers :=
                        .cons sameName alikeHeaders.qualifiers }
  | case3 first next rest name named notDot isOpening =>
      obtain _ | @⟨_, one, _, _, sameFirst,
        _ | @⟨_, two, _, later, sameNext, paired⟩⟩ := paired
      have names := (alike sameFirst.1).named
      have kinds := (alike sameNext.1).kind
      rw [named] at names
      cases otherNamed : one.1.plainName? with
      | none => rw [otherNamed] at names; cases names
      | some otherName =>
          rw [otherNamed] at names
          rw [isOpening] at kinds
          simp only [names?, named, otherNamed, ← kinds, isOpening]
          cases names with
          | some sameName => exact .some ⟨.nil, sameName, sameNext.2⟩
  | case4 first next rest name named notDot notOpening =>
      obtain _ | @⟨_, one, _, _, sameFirst,
        _ | @⟨_, two, _, later, sameNext, paired⟩⟩ := paired
      have kinds := (alike sameNext.1).kind
      simp only [names?, named, notDot, notOpening, if_false, ← kinds]
      cases one.1.plainName? with
      | none => exact .none
      | some otherName => exact .none
  | case5 tokens short =>
      obtain _ | ⟨_, _ | ⟨_, _⟩⟩ := paired
      · exact .none
      · exact .none
      · exact absurd rfl (short _ _ _)

theorem afterCreate?_alike
    (paired : List.Forall₂ (Paired related) tokens others) :
    Option.Rel (Alike same) (afterCreate? tokens) (afterCreate? others) := by
  have passed := pass?_paired alike "TABLE"
    (skipModifier_paired alike (skipReplacement_paired alike paired))
  rw [afterCreate?, afterCreate?]
  generalize pass? "TABLE" (skipModifier (skipReplacement tokens)) = rest
    at passed ⊢
  generalize pass? "TABLE" (skipModifier (skipReplacement others)) = other
    at passed ⊢
  cases passed with
  | none => exact .none
  | some paired =>
      exact names?_alike alike (skipCondition_paired alike paired)

theorem first?_alike
    (paired : List.Forall₂ (Paired related) tokens others) :
    Option.Rel (Alike same) (first? tokens) (first? others) := by
  induction paired with
  | nil => exact .none
  | cons first rest induction =>
      simp only [first?, (alike first.1).isThe]
      split
      · have after := afterCreate?_alike alike rest
        generalize afterCreate? _ = found at after ⊢
        generalize afterCreate? _ = other at after ⊢
        cases after with
        | none => exact induction
        | some alikeHeaders => exact .some alikeHeaders
      · exact induction

/-- Token lists that are read alike have headers alike, or none. -/
theorem find?_alike {tokens others : List Token}
    (relate : List.Forall₂ related tokens others) :
    Option.Rel (Alike same) (find? tokens) (find? others) :=
  first?_alike alike (significant_paired alike relate)

omit alike in
theorem find?_eq
    (alike : ∀ ⦃token other⦄, related token other → token.Alike Eq said other)
    {tokens others : List Token}
    (relate : List.Forall₂ related tokens others) :
    find? tokens = find? others := by
  have headers := find?_alike alike relate
  generalize find? tokens = header at headers ⊢
  generalize find? others = other at headers ⊢
  cases headers with
  | none => rfl
  | some alikeHeaders => exact congrArg some alikeHeaders.eq

end Header

namespace Block

include alike

variable {tokens others : List Token}

theorem close_alike (relate : List.Forall₂ related tokens others)
    (depth index : Nat) : close depth index tokens
      = close depth index others := by
  induction relate generalizing depth index with
  | nil => rfl
  | cons first rest induction =>
      rw [close, close, (alike first).kind]
      split
      · exact induction _ _
      · split
        · rfl
        · exact induction _ _
      · exact induction _ _

/-- Token lists that are read alike have blocks that end at the same index, or
leave equally many parentheses open. -/
theorem closeOf_alike (relate : List.Forall₂ related tokens others)
    (opening : Nat) : closeOf tokens opening = closeOf others opening :=
  close_alike alike (List.forall₂_drop _ relate) 1 (opening + 1)

omit alike in
theorem between_related (relate : List.Forall₂ related tokens others)
    (opening closing : Nat) :
    List.Forall₂ related (between tokens opening closing)
      (between others opening closing) :=
  List.forall₂_drop _ (List.forall₂_take _ relate)

theorem pieces_related (relate : List.Forall₂ related tokens others)
    (depth : Int) :
    List.Forall₂ related (pieces depth tokens).1 (pieces depth others).1
      ∧ List.Forall₂ (List.Forall₂ related) (pieces depth tokens).2
        (pieces depth others).2 := by
  induction relate generalizing depth with
  | nil => exact ⟨.nil, .nil⟩
  | cons first rest induction =>
      simp only [pieces, (alike first).separates, (alike first).step]
      split
      · obtain ⟨sameFirst, sameOthers⟩ := induction depth
        exact ⟨.nil, .cons sameFirst sameOthers⟩
      · obtain ⟨sameFirst, sameOthers⟩ := induction (depth + step _)
        exact ⟨.cons first sameFirst, sameOthers⟩

theorem declarations_related (relate : List.Forall₂ related tokens others) :
    List.Forall₂ (List.Forall₂ related) (declarations tokens)
      (declarations others) := by
  obtain ⟨sameFirst, sameOthers⟩ := pieces_related alike relate 0
  unfold declarations
  apply List.rel_filter ?_ (.cons sameFirst sameOthers)
  intro piece other pieces
  cases pieces with
  | nil => exact Iff.rfl
  | cons first rest => exact Iff.rfl

end Block

namespace Declaration

include alike

variable {tokens others : List Token}

theorem opens_alike (opening : Opening)
    (relate : List.Forall₂ related tokens others) :
    opening.opens tokens = opening.opens others := by
  induction opening generalizing tokens others with
  | nil => rfl
  | cons word words induction =>
      cases relate with
      | nil => rfl
      | cons first rest =>
          rw [Opening.opens, Opening.opens, (alike first).isThe,
            induction rest]

theorem isClause_alike (openings : List Opening)
    (relate : List.Forall₂ related tokens others) :
    isClause openings tokens = isClause openings others := by
  unfold isClause
  congr 1
  funext opening
  exact opens_alike alike opening relate

theorem closing?_related (relate : List.Forall₂ related tokens others)
    (depth : Nat) :
    Option.Rel (fun found other => related found.1 other.1
        ∧ List.Forall₂ related found.2 other.2)
      (closing? depth tokens) (closing? depth others) := by
  induction relate generalizing depth with
  | nil => exact .none
  | cons first rest induction =>
      rw [closing?, closing?, (alike first).kind]
      split
      · exact induction _
      · split
        · exact .some ⟨first, rest⟩
        · exact induction _
      · exact induction _

theorem typeEnd_related {type other : Token} (sameType : related type other)
    (relate : List.Forall₂ related tokens others) :
    related (typeEnd type tokens).1 (typeEnd other others).1
      ∧ List.Forall₂ related (typeEnd type tokens).2
        (typeEnd other others).2 := by
  cases relate with
  | nil => exact ⟨sameType, .nil⟩
  | cons next later =>
      simp only [typeEnd, (alike next).kind]
      split
      · have closing := closing?_related alike later 1
        generalize closing? 1 _ = found at closing ⊢
        generalize closing? 1 _ = otherFound at closing ⊢
        cases closing with
        | none => exact ⟨sameType, .cons next later⟩
        | some closed => exact closed
      · exact ⟨sameType, .cons next later⟩

theorem comment_alike (silent : said [] [])
    (relate : List.Forall₂ related tokens others) :
    said (comment tokens) (comment others) := by
  induction relate with
  | nil => exact silent
  | cons word rest induction =>
      cases rest with
      | nil => exact silent
      | cons text later =>
          simp only [comment, (alike word).isThe, (alike text).isText]
          split
          · next both =>
              have isText := (Bool.and_eq_true_iff.mp both).2
              exact (alike text).content ((alike text).isText.trans isText)
          · exact induction

/-- Declarations that are read alike declare columns with parts alike, or
neither declares one. -/
theorem parts?_alike (silent : said [] [])
    (sameUpper : ∀ ⦃name other⦄, same name other →
      Text.upper name.text = Text.upper other.text)
    (relate : List.Forall₂ related tokens others) :
    Option.Rel (Parts.Alike same said related) (parts? tokens)
      (parts? others) := by
  cases relate with
  | nil => exact .none
  | cons name rest =>
      cases rest with
      | nil => exact .none
      | cons type later =>
          have named := (alike name).named
          obtain ⟨sameLast, sameRest⟩ := typeEnd_related alike type later
          simp only [parts?]
          generalize Token.plainName? _ = plain at named ⊢
          generalize Token.plainName? _ = otherPlain at named ⊢
          cases named with
          | none => exact .none
          | some sameName =>
              simp only [(alike type).isWord, sameUpper sameName]
              split
              · exact .some ⟨sameName, type, sameLast,
                  comment_alike alike silent sameRest⟩
              · exact .none

end Declaration

namespace Located

/-- The parts of the columns that the block declares. -/
def parts (openings : List Opening) (located : Located) (closing : Nat) :
    List Declaration.Parts :=
  (Block.declarations (located.block closing)).filterMap fun declaration =>
    if Declaration.isClause openings declaration then none
    else Declaration.parts? declaration

theorem columns_eq_map (openings : List Opening) (located : Located)
    (closing : Nat) :
    located.columns openings closing
      = (located.parts openings closing).map
        (Declaration.Parts.column located.statement) := by
  rw [columns, parts, List.map_filterMap]
  congr 1
  funext declaration
  rw [columnOf?, Declaration.column?_eq]
  split
  · rfl
  · rfl

/-- The text as a statement with the given header. -/
def ofHeader (text : Text) (header : Header) : Located :=
  ⟨text, Token.stream text, header⟩

include alike in
theorem parts_alike {located another : Located} (silent : said [] [])
    (sameUpper : ∀ ⦃name other⦄, same name other →
      Text.upper name.text = Text.upper other.text)
    (relate : List.Forall₂ related located.tokens another.tokens)
    (opening : located.header.opening = another.header.opening)
    (openings : List Opening) (closing : Nat) :
    List.Forall₂ (Declaration.Parts.Alike same said related)
      (located.parts openings closing) (another.parts openings closing) := by
  unfold parts block
  rw [opening]
  apply List.rel_filterMap ?_ (Block.declarations_related alike
    (Block.between_related relate _ closing))
  intro declaration other pieces
  simp only [Declaration.isClause_alike alike openings pieces]
  split
  · exact .none
  · exact Declaration.parts?_alike alike silent sameUpper pieces

end Located

end Reading

end SchemaSheet
