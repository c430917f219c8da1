import SchemaSheet.Proofs.Table.HeaderGrammar
import SchemaSheet.Proofs.Table.Likeness
import SchemaSheet.Proofs.Token.LetterCase
import SchemaSheet.Proofs.Token.LiteralContent

/-!
# Statements that differ in case

Two statements that differ in the case of ASCII letters outside of quotes are
read alike: words are compared in upper case only.  `recased_ofStatement?` goes
through every stage of the reading, from the tokens to the columns.  Names keep
the case in which they are written, and all else is the same.
-/

namespace SchemaSheet

/-- The other text has the same characters but for the case of ASCII letters,
and in quotes the same letters, too. -/
structure Text.Recased (text other : Text) : Prop where
  fold : text.fold = other.fold
  quoted : ∀ token ∈ Token.stream text, token.kind.isQuoted = true →
    Declaration.slice other token.offset token.stop = token.text

/-- The tokens are of one kind, stand at one place and have texts that differ
only in the case of ASCII letters, and do not differ if they are in quotes. -/
structure Token.Recased (token other : Token) : Prop where
  kind : token.kind = other.kind
  place : token.place = other.place
  text : token.text.fold = other.text.fold
  quoted : token.kind.isQuoted = true → token.text = other.text

/-- The names differ only in the case of ASCII letters. -/
def PlainName.Recased (name other : PlainName) : Prop :=
  name.text.fold = other.text.fold

namespace Token

theorem stop_of_fold {token other : Token} (same : token.fold = other.fold) :
    token.stop = other.stop := by
  obtain ⟨-, letters, place⟩ := Token.mk.inj same
  have length := congrArg List.length letters
  rw [Text.length_fold, Text.length_fold] at length
  rw [stop, stop, offset, offset, place, length]

section Texts

variable {text other : Text} (recased : text.Recased other)

include recased

/-- Texts that differ in letter case outside of quotes have the same tokens, but
for the case of letters in them. -/
theorem recased_stream :
    List.Forall₂ Recased (stream text) (stream other) := by
  have folded : (stream text).map fold = (stream other).map fold := by
    have streams := tokenize_fold true text
    rw [recased.fold, tokenize_fold true other] at streams
    exact streams.symm
  apply (forall₂_of_map_eq folded).imp
  rintro token again ⟨member, otherMember, same⟩
  obtain ⟨kind, letters, place⟩ := Token.mk.inj same
  refine ⟨kind, place, letters, ?_⟩
  intro isQuoted
  have proper : again.kind ≠ .endOfText := by
    intro isEnd
    rw [kind, isEnd] at isQuoted
    cases isQuoted
  rw [← recased.quoted token member isQuoted, offset, place,
    stop_of_fold same]
  exact slice_of_mem_stream otherMember proper

theorem recased_tokenize (keepBreaks : Bool) :
    List.Forall₂ Recased (tokenize keepBreaks text)
      (tokenize keepBreaks other) := by
  have streams := recased_stream recased
  cases keepBreaks with
  | true => exact streams
  | false =>
      refine List.rel_filter ?_ streams
      intro token other same
      simp only [same.kind]

end Texts

variable {token other : Token}

theorem isQuoted_of_isText (isText : token.isText = true) :
    token.kind.isQuoted = true := by
  rw [Token.isText, Bool.or_eq_true, Bool.and_eq_true] at isText
  rw [Kind.isQuoted, Bool.or_eq_true]
  exact isText.imp_right And.left

namespace Recased

theorem fold (recased : token.Recased other) : token.fold = other.fold := by
  rw [Token.fold, Token.fold, recased.kind, recased.text, recased.place]

theorem eq_of_isQuoted (recased : token.Recased other)
    (isQuoted : token.kind.isQuoted = true) : token = other := by
  obtain ⟨kind, text, place⟩ := token
  obtain ⟨rfl, rfl, -, same⟩ := recased
  obtain rfl := same isQuoted
  rfl

theorem offset (recased : token.Recased other) :
    token.offset = other.offset := by
  rw [Token.offset, Token.offset, recased.place]

theorem stop (recased : token.Recased other) : token.stop = other.stop :=
  stop_of_fold recased.fold

theorem named (recased : token.Recased other) :
    Option.Rel PlainName.Recased token.plainName? other.plainName? := by
  have letters : token.content.fold = other.content.fold := by
    rw [← content_fold, recased.fold, content_fold]
  have plain : Text.isPlainName token.content
      = Text.isPlainName other.content := by
    rw [← Text.isPlainName_fold, letters, Text.isPlainName_fold]
  have isName : token.isName = other.isName := by
    rw [isName, isName, recased.kind]
  unfold plainName?
  rw [← isName]
  split
  · by_cases isPlain : Text.isPlainName token.content = true
    · rw [dif_pos isPlain, dif_pos (plain.symm.trans isPlain)]
      exact .some letters
    · rw [dif_neg isPlain, dif_neg (plain ▸ isPlain)]
      exact .none
  · exact .none

theorem alike (recased : token.Recased other) :
    token.Alike PlainName.Recased Eq other where
  kind := recased.kind
  upper := fun _ => Text.upper_eq_of_fold recased.text
  named := recased.named
  isText := by
    have head : token.text.head? = some (.of '"')
        ↔ other.text.head? = some (.of '"') := by
      rw [← Text.head?_fold_eq_iff rfl, recased.text,
        Text.head?_fold_eq_iff rfl]
    have sameHead : (token.text.head? == some (.of '"'))
        = (other.text.head? == some (.of '"')) := by
      rw [Bool.eq_iff_iff, beq_iff_eq, beq_iff_eq]
      exact head
    rw [Token.isText, Token.isText, recased.kind, sameHead]
  content := by
    intro isText
    rw [recased.eq_of_isQuoted (isQuoted_of_isText isText)]

end Recased

end Token

/-- The name is what the token calls something.  In the other statement it
differs only in the case of ASCII letters, and in quotes it does not differ. -/
structure PlainName.RecasedIn (token : Token) (name other : PlainName) :
    Prop where
  named : token.plainName? = some name
  recased : name.Recased other
  quoted : token.kind.isQuoted = true → name = other

namespace Header

/-- Names of two headers, of which the first are those of the chain. -/
inductive RecasedChain :
    List IndexedToken → List PlainName → List PlainName → Prop where
  | single {token : IndexedToken} {name other : PlainName}
      (recased : name.RecasedIn token.1 other) :
      RecasedChain [token] [name] [other]
  | dotted {token point : IndexedToken} {tokens : List IndexedToken}
      {name other : PlainName} {names others : List PlainName}
      (recased : name.RecasedIn token.1 other) (isDot : point.1.kind = .dot)
      (goesOn : RecasedChain tokens names others) :
      RecasedChain (token :: point :: tokens) (name :: names) (other :: others)

/-- The chain of the names of the header, in front of its parenthesis. -/
structure Chained (tokens : List Token) (header : Header)
    (chain : List IndexedToken) : Prop where
  chained : Chain chain (header.qualifiers ++ [header.name])
  stands : ∃ before paren after,
    significant tokens = before ++ (chain ++ paren :: after)
      ∧ paren.1.kind = .openParen ∧ paren.2 = header.opening

/-- The headers end at the same index, and their names differ only in the case
of ASCII letters, and do not differ where they are in quotes. -/
structure Recased (tokens : List Token) (header other : Header) : Prop where
  opening : header.opening = other.opening
  names : ∃ chain, header.Chained tokens chain
    ∧ RecasedChain chain (header.qualifiers ++ [header.name])
      (other.qualifiers ++ [other.name])
  name : header.name.Recased other.name
  schema : header.schema.map Text.fold = other.schema.map Text.fold

theorem exists_chained_of_find? {tokens : List Token} {header : Header}
    (found : find? tokens = some header) :
    ∃ chain, header.Chained tokens chain := by
  obtain ⟨position, ⟨phrase, after, divided, isPhrase⟩, -⟩ :=
    first?_eq_some_iff.mp found
  cases isPhrase with
  | @intro create table paren replacement modifier condition chain _ isCreate
      replaces modifies isTable conditional chained opens stands =>
      have whole : significant tokens
          = ((significant tokens).take position
            ++ create :: (replacement ++ (modifier ++ table :: condition)))
            ++ (chain ++ paren :: after) := by
        conv_lhs => rw [← List.take_append_drop position (significant tokens)]
        rw [divided]
        simp only [List.append_assoc, List.cons_append, List.nil_append]
      exact ⟨chain, chained, _, paren, after, whole, opens, stands⟩

theorem nodup_indices (tokens : List Token) :
    ((significant tokens).map Prod.snd).Nodup := by
  have indices : (tokens.zipIdx.map Prod.snd).Nodup := by
    rw [List.zipIdx_map_snd]
    exact List.nodup_range'
  exact indices.sublist (List.filter_sublist.map _)

theorem Chain.length {chain : List IndexedToken} {names : List PlainName}
    (chained : Chain chain names) : chain.length + 1 = 2 * names.length := by
  induction chained with
  | single named => rfl
  | dotted named isDot goesOn induction =>
      simp only [List.length_cons]
      omega

/-- Where two chains stand in front of the same index, with equally many names,
they consist of the same tokens of both lists. -/
theorem Chained.paired {related : Token → Token → Prop}
    {tokens others : List Token} {header other : Header}
    {chain otherChain : List IndexedToken}
    (chained : header.Chained tokens chain)
    (otherChained : other.Chained others otherChain)
    (opening : header.opening = other.opening)
    (count : header.qualifiers.length = other.qualifiers.length)
    (paired : List.Forall₂ (Paired related) (significant tokens)
      (significant others)) :
    List.Forall₂ (Paired related) chain otherChain := by
  obtain ⟨before, paren, after, divided, -, stands⟩ := chained.stands
  obtain ⟨otherBefore, otherParen, otherAfter, otherDivided, -, otherStands⟩ :=
    otherChained.stands
  have sameIndex : paren.2 = otherParen.2 :=
    stands.trans (opening.trans otherStands.symm)
  have front : (before ++ chain).map Prod.snd
      = (otherBefore ++ otherChain).map Prod.snd := by
    have indices : (significant tokens).map Prod.snd
        = (significant others).map Prod.snd :=
      map_eq_of_forall₂ (fun _ _ both => both.2) paired
    have once := nodup_indices tokens
    have split : ∀ (front inner back : List IndexedToken)
        (token : IndexedToken),
        (front ++ (inner ++ token :: back)).map Prod.snd
          = (front ++ inner).map Prod.snd ++ token.2 :: back.map Prod.snd := by
      intro front inner back token
      simp
    rw [divided, otherDivided, split, split] at indices
    rw [divided, split, List.perm_middle.nodup_iff, List.nodup_cons,
      List.mem_append, not_or, sameIndex] at once
    exact ((List.append_cons_inj_of_notMem once.1.1 once.1.2).mp indices).1
  have chainLength : chain.length = otherChain.length := by
    have length := chained.chained.length
    have otherLength := otherChained.chained.length
    simp only [List.length_append, List.length_singleton,
      count] at length otherLength
    omega
  have beforeLength : before.length = otherBefore.length := by
    have lengths := congrArg List.length front
    simp only [List.length_map, List.length_append] at lengths
    omega
  have inner := List.forall₂_take chain.length
    (List.forall₂_drop before.length paired)
  rw [divided, List.drop_left, List.take_left, beforeLength, otherDivided,
    List.drop_left, chainLength, List.take_left] at inner
  exact inner

/-- A name token gives the same name in the other statement, but for the case
of letters outside of quotes. -/
theorem recasedIn_of_isNamed {token other : IndexedToken}
    {name otherName : PlainName} (named : IsNamed token name)
    (otherNamed : IsNamed other otherName)
    (recased : token.1.Recased other.1) :
    name.RecasedIn token.1 otherName := by
  have found := Token.plainName?_eq_some_iff.mpr named
  have otherFound := Token.plainName?_eq_some_iff.mpr otherNamed
  refine ⟨found, ?_, ?_⟩
  · have names := recased.named
    rw [found, otherFound] at names
    cases names with
    | some same => exact same
  · intro isQuoted
    rw [recased.eq_of_isQuoted isQuoted, otherFound] at found
    exact (Option.some.inj found).symm

theorem recasedChain_of_paired {chain otherChain : List IndexedToken}
    {names others : List PlainName} (chained : Chain chain names)
    (otherChained : Chain otherChain others)
    (paired : List.Forall₂ (Paired Token.Recased) chain otherChain) :
    RecasedChain chain names others := by
  induction chained generalizing otherChain others with
  | single named =>
      cases paired with
      | cons first rest =>
          cases rest
          cases otherChained with
          | single otherNamed =>
              exact .single (recasedIn_of_isNamed named otherNamed first.1)
  | dotted named isDot goesOn induction =>
      obtain _ | ⟨first, _ | ⟨second, rest⟩⟩ := paired
      cases otherChained with
      | dotted otherNamed otherDot otherGoesOn =>
          exact .dotted (recasedIn_of_isNamed named otherNamed first.1) isDot
            (induction otherGoesOn rest)

theorem schema_fold_eq {header other : Header}
    (qualifiers : List.Forall₂ PlainName.Recased header.qualifiers
      other.qualifiers) :
    header.schema.map Text.fold = other.schema.map Text.fold := by
  have pieces : (header.qualifiers.map PlainName.text).map Text.fold
      = (other.qualifiers.map PlainName.text).map Text.fold := by
    rw [List.map_map, List.map_map]
    exact map_eq_of_forall₂ (fun _ _ same => same) qualifiers
  have empty : header.qualifiers.isEmpty = other.qualifiers.isEmpty := by
    simpa only [List.isEmpty_map] using congrArg List.isEmpty pieces
  rw [schema, schema, ← empty]
  split
  · rfl
  · rw [Option.map_some, Option.map_some, Text.fold_intercalate,
      Text.fold_intercalate, pieces]

/-- Both statements have headers that differ in letter case only, or neither
has one. -/
theorem find?_recased {tokens others : List Token}
    (relate : List.Forall₂ Token.Recased tokens others) :
    Option.Rel (Recased tokens) (find? tokens) (find? others) := by
  have headers := find?_alike (fun _ _ => Token.Recased.alike) relate
  generalize found : find? tokens = header at headers ⊢
  generalize otherFound : find? others = other at headers ⊢
  cases headers with
  | none => exact .none
  | some alike =>
      obtain ⟨chain, chained⟩ := exists_chained_of_find? found
      obtain ⟨otherChain, otherChained⟩ := exists_chained_of_find? otherFound
      have paired := chained.paired otherChained alike.opening
        alike.qualifiers.length_eq
        (significant_paired (fun _ _ => Token.Recased.alike) relate)
      have names := recasedChain_of_paired chained.chained
        otherChained.chained paired
      exact .some
        { opening := alike.opening
          names := ⟨chain, chained, names⟩
          name := alike.name
          schema := schema_fold_eq alike.qualifiers }

end Header

/-- Columns whose names differ only in the case of ASCII letters, and do not
differ if they are in quotes.  Types and comments are the same. -/
structure Column.Recased (isQuoted : Bool) (column other : Column) : Prop where
  name : column.name.map Text.fold = other.name.map Text.fold
  quoted : isQuoted = true → column.name = other.name
  type : column.type = other.type
  comment : column.comment = other.comment

namespace Declaration

variable {text other : Text} {declaration another : List Token}

theorem slice_fold (text : Text) (start stop : Nat) :
    (slice text start stop).fold = slice text.fold start stop := by
  rw [slice, slice, Text.fold_take, Text.fold_drop]

theorem exists_of_parts? {parts : Parts}
    (found : parts? declaration = some parts) :
    ∃ name rest, declaration = name :: rest
      ∧ name.plainName? = some parts.name := by
  match declaration with
  | [] => cases found
  | [_] => cases found
  | name :: type :: rest =>
      rw [parts?] at found
      cases named : name.plainName? with
      | none =>
          rw [named] at found
          cases found
      | some plain =>
          simp only [named] at found
          split at found
          · cases found
            exact ⟨name, type :: rest, rfl, named⟩
          · cases found

/-- The declaration has a name in quotes. -/
def isQuoted (declaration : List Token) : Bool :=
  declaration.head?.any fun token => token.kind.isQuoted

theorem Parts.Alike.recased (same : text.fold = other.fold)
    {parts another : Parts} {isQuoted : Bool}
    (alike : parts.Alike PlainName.Recased Eq Token.Recased another)
    (quoted : isQuoted = true → parts.name = another.name) :
    (parts.column text).Recased isQuoted (another.column other) where
  name := congrArg some alike.name
  quoted := fun inQuotes => by rw [column, column, quoted inQuotes]
  type := by
    have typeTexts : (parts.typeText text).fold
        = (another.typeText other).fold := by
      rw [typeText, typeText, slice_fold, slice_fold, same,
        alike.type.offset, alike.last.stop]
    rw [column, column, Text.upper_eq_of_fold typeTexts]
  comment := congrArg some alike.comment

/-- Two declarations of which both or neither are clauses, and both or neither
declare a column. -/
structure Recased (openings : List Opening) (text other : Text)
    (declaration another : List Token) : Prop where
  tokens : List.Forall₂ Token.Recased declaration another
  isClause : isClause openings declaration = isClause openings another
  column : Option.Rel (Column.Recased (isQuoted declaration))
    (column? text declaration) (column? other another)

theorem recased_of_tokens (openings : List Opening)
    (same : text.fold = other.fold)
    (pieces : List.Forall₂ Token.Recased declaration another) :
    Recased openings text other declaration another := by
  refine ⟨pieces, isClause_alike (fun _ _ => Token.Recased.alike) openings
    pieces, ?_⟩
  have parts := parts?_alike (fun _ _ => Token.Recased.alike) rfl
    (fun _ _ => Text.upper_eq_of_fold) pieces
  rw [column?_eq, column?_eq]
  generalize found : parts? declaration = made at parts ⊢
  generalize otherFound : parts? another = otherMade at parts ⊢
  cases parts with
  | none => exact .none
  | some alike =>
      refine .some (alike.recased same ?_)
      intro inQuotes
      obtain ⟨name, rest, rfl, named⟩ := exists_of_parts? found
      obtain ⟨otherName, otherRest, rfl, otherNamed⟩ :=
        exists_of_parts? otherFound
      cases pieces with
      | cons first later =>
          rw [first.eq_of_isQuoted inQuotes, otherNamed] at named
          exact (Option.some.inj named).symm

end Declaration

/-- Both readings fail in the same way, or the tables have the same columns, but
for the case of ASCII letters in names. -/
inductive Table.Recased :
    Except ParseFault Table → Except ParseFault Table → Prop where
  | unclosed (offset depth : Nat) :
      Recased (.error (.columnBlockNotFound offset depth))
        (.error (.columnBlockNotFound offset depth))
  | columnless {name other : Text} (candidates : Nat)
      (sameName : name.fold = other.fold) :
      Recased (.error (.noColumnsParsed name candidates))
        (.error (.noColumnsParsed other candidates))
  | read {table other : Table} (name : table.name.fold = other.name.fold)
      (schema : table.schema.map Text.fold = other.schema.map Text.fold)
      (columns : List.Forall₂ (Column.Recased false) table.columns
        other.columns) :
      Recased (.ok table) (.ok other)

namespace Located

/-- Statements that are read alike at every stage, but for the case of ASCII
letters in tokens and names. -/
structure Recased (openings : List Opening) (located another : Located) :
    Prop where
  tokens : List.Forall₂ Token.Recased located.tokens another.tokens
  header : located.header.Recased located.tokens another.header
  closing : Block.closeOf located.tokens located.header.opening
    = Block.closeOf another.tokens another.header.opening
  declarations : ∀ closing, List.Forall₂
    (Declaration.Recased openings located.statement another.statement)
    (Block.declarations (located.block closing))
    (Block.declarations (another.block closing))
  result : Table.Recased (located.read openings) (another.read openings)

variable {openings : List Opening} {located another : Located}

theorem columns_recased {closing : Nat}
    (declared : List.Forall₂
      (Declaration.Recased openings located.statement another.statement)
      (Block.declarations (located.block closing))
      (Block.declarations (another.block closing))) :
    List.Forall₂ (Column.Recased false) (located.columns openings closing)
      (another.columns openings closing) := by
  refine List.rel_filterMap ?_ declared
  intro declaration other recased
  have columns := recased.column
  rw [columnOf?, columnOf?, ← recased.isClause]
  split
  · exact .none
  · generalize Declaration.column? _ _ = found at columns ⊢
    generalize Declaration.column? _ _ = otherFound at columns ⊢
    cases columns with
    | none => exact .none
    | some same =>
        refine .some { same with quoted := ?_ }
        intro impossible
        cases impossible

theorem offset_getElem?_eq {index : Nat}
    (relate : List.Forall₂ Token.Recased located.tokens another.tokens) :
    located.tokens[index]?.map Token.offset
      = another.tokens[index]?.map Token.offset := by
  have offsets : located.tokens.map Token.offset
      = another.tokens.map Token.offset :=
    map_eq_of_forall₂ (fun _ _ same => same.offset) relate
  rw [← List.getElem?_map, offsets, List.getElem?_map]

theorem read_recased
    (tokens : List.Forall₂ Token.Recased located.tokens another.tokens)
    (header : located.header.Recased located.tokens another.header)
    (closing : Block.closeOf located.tokens located.header.opening
      = Block.closeOf another.tokens another.header.opening)
    (declarations : ∀ closing, List.Forall₂
      (Declaration.Recased openings located.statement another.statement)
      (Block.declarations (located.block closing))
      (Block.declarations (another.block closing))) :
    Table.Recased (located.read openings) (another.read openings) := by
  cases closed : Block.closeOf located.tokens located.header.opening with
  | error depth =>
      rw [read_eq_of_unclosed openings closed,
        read_eq_of_unclosed openings (closing.symm.trans closed),
        ← header.opening, offset_getElem?_eq tokens]
      exact .unclosed _ depth
  | ok index =>
      have columns := columns_recased (declarations index)
      have count := (declarations index).length_eq
      have read := read_of_closed openings closed
      have otherRead := read_of_closed openings (closing.symm.trans closed)
      rcases read with ⟨none, failed⟩ | ⟨table, made, name, schema, found⟩
      · rcases otherRead with
          ⟨-, otherFailed⟩ | ⟨other, -, -, -, otherFound⟩
        · rw [failed, otherFailed, ← count]
          exact .columnless _ header.name
        · rw [none, List.forall₂_nil_left_iff, ← otherFound] at columns
          exact absurd columns other.columns_ne_nil
      · rcases otherRead with
          ⟨none, -⟩ | ⟨other, otherMade, otherName, otherSchema, otherFound⟩
        · rw [none, List.forall₂_nil_right_iff, ← found] at columns
          exact absurd columns table.columns_ne_nil
        · rw [made, otherMade]
          rw [← found, ← otherFound] at columns
          have sameName : table.name.fold = other.name.fold := by
            rw [name, otherName]
            exact header.name
          have sameSchema : table.schema.map Text.fold
              = other.schema.map Text.fold := by
            rw [schema, otherSchema]
            exact header.schema
          exact .read sameName sameSchema columns

/-- Nothing that is read depends on the case of ASCII letters outside of quotes,
but for the letters of names. -/
theorem recased_ofStatement? {text other : Text}
    (recased : text.Recased other) (openings : List Opening) :
    (∀ keepBreaks, List.Forall₂ Token.Recased
      (Token.tokenize keepBreaks text) (Token.tokenize keepBreaks other))
    ∧ Option.Rel (Recased openings) (ofStatement? text)
      (ofStatement? other) := by
  have tokens := Token.recased_stream recased
  refine ⟨Token.recased_tokenize recased, ?_⟩
  have headers := Header.find?_recased tokens
  simp only [ofStatement?]
  generalize Header.find? (Token.stream text) = found at headers ⊢
  generalize Header.find? (Token.stream other) = otherFound at headers ⊢
  cases headers with
  | none => exact .none
  | @some header otherHeader same =>
      have closing : Block.closeOf (Token.stream text) header.opening
          = Block.closeOf (Token.stream other) otherHeader.opening := by
        rw [← same.opening]
        exact Block.closeOf_alike (fun _ _ => Token.Recased.alike) tokens _
      have declarations : ∀ closing, List.Forall₂
          (Declaration.Recased openings text other)
          (Block.declarations
            (Block.between (Token.stream text) header.opening closing))
          (Block.declarations
            (Block.between (Token.stream other) otherHeader.opening
              closing)) := by
        intro closing
        rw [← same.opening]
        apply (Block.declarations_related (fun _ _ => Token.Recased.alike)
          (Block.between_related tokens header.opening closing)).imp
        intro declaration another pieces
        exact Declaration.recased_of_tokens openings recased.fold pieces
      exact .some
        { tokens
          header := same
          closing
          declarations
          result := read_recased tokens same closing declarations }

/-- A statement with quoted names, a comment, a column and a clause. -/
def shouted : Text :=
  "CREATE TABLE `Db`.T1(`Id` INT COMMENT 'Key', KEY(ID))"

/-- The statement in small letters, but for what is in quotes. -/
def whispered : Text :=
  "create table `Db`.t1(`Id` int comment 'Key', key(id))"

theorem recased_ofStatement?_whispered :
    shouted.Recased whispered ∧ (ofStatement? shouted).isSome = true
      ∧ (∀ keepBreaks, List.Forall₂ Token.Recased
        (Token.tokenize keepBreaks shouted)
        (Token.tokenize keepBreaks whispered))
      ∧ Option.Rel (Recased Opening.standard) (ofStatement? shouted)
        (ofStatement? whispered) := by
  have recased : shouted.Recased whispered :=
    ⟨by decide +kernel, by decide +kernel⟩
  exact ⟨recased, by decide +kernel,
    recased_ofStatement? recased Opening.standard⟩

end Located

end SchemaSheet
