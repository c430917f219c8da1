import SchemaSheet.Proofs.Table.Layout
import SchemaSheet.Proofs.Token.LineEnding
import SchemaSheet.Script.Statement
import SchemaSheet.Table.Sheet

/-!
# Line endings and tables

Carriage returns in front of the line feeds of a statement change neither the
names nor the number of columns of its table.  They get into the types and the
comments, where a line break stood before, and a listing that sanitizes its
fields does not show them.
-/

namespace SchemaSheet

namespace Text

theorem isBlankText_withReturns (text : Text) :
    isBlankText (withReturns text) = isBlankText text := by
  have returnBlank : isBlank (.of '\r') = true := by decide
  have feedBlank : isBlank (.of '\n') = true := by decide
  induction text with
  | nil => rfl
  | cons char rest induction =>
      unfold isBlankText at induction ⊢
      by_cases feed : char = .of '\n'
      · subst feed
        simp only [withReturns_lineFeed, List.all_cons, returnBlank,
          feedBlank, Bool.true_and, induction]
      · rw [withReturns_cons rest feed, List.all_cons, List.all_cons,
          induction]

theorem isPlainName_of_lineFeed {name : Text} (feed : .of '\n' ∈ name) :
    isPlainName name = false := by
  apply Bool.eq_false_iff.mpr
  intro plain
  exact not_mem_of_isPlainName plain Lexeme.inLine_isWordChar.noFeed feed

end Text

open Text

namespace Listing

theorem sanitizeFrom_return_lineFeed (inside : Bool) (rest : Text) :
    sanitizeFrom inside (.of '\r' :: .of '\n' :: rest)
      = sanitizeFrom inside (.of '\n' :: rest) := by
  cases inside with
  | false => rfl
  | true => rfl

theorem sanitizeFrom_append {text other : Text}
    (same : ∀ inside, sanitizeFrom inside text = sanitizeFrom inside other)
    (front : Text) (inside : Bool) :
    sanitizeFrom inside (front ++ text)
      = sanitizeFrom inside (front ++ other) := by
  induction front generalizing inside with
  | nil => exact same inside
  | cons char rest induction =>
      simp only [List.cons_append, sanitizeFrom, induction]

/-- Carriage returns in front of line feeds do not survive, provided that
neither of the two is changed before. -/
theorem sanitizeFrom_flatMap_withReturns {image : Character → Text}
    (returned : image (.of '\r') = [.of '\r'])
    (fed : image (.of '\n') = [.of '\n']) (text : Text) (inside : Bool) :
    sanitizeFrom inside ((withReturns text).flatMap image)
      = sanitizeFrom inside (text.flatMap image) := by
  induction text generalizing inside with
  | nil => rfl
  | cons char rest induction =>
      by_cases feed : char = .of '\n'
      · subst feed
        simp only [withReturns_lineFeed, List.flatMap_cons, returned, fed,
          List.cons_append, List.nil_append]
        rw [sanitizeFrom_return_lineFeed]
        exact sanitizeFrom_append induction [.of '\n'] inside
      · rw [withReturns_cons rest feed, List.flatMap_cons, List.flatMap_cons]
        exact sanitizeFrom_append induction _ inside

theorem sanitize_withReturns (text : Text) :
    sanitize (withReturns text) = sanitize text := by
  have kept : sanitizeFrom false ((withReturns text).flatMap fun char => [char])
      = sanitizeFrom false (text.flatMap fun char => [char]) :=
    sanitizeFrom_flatMap_withReturns rfl rfl text false
  rwa [List.flatMap_singleton', List.flatMap_singleton'] at kept

theorem sanitize_upper_withReturns (text : Text) :
    sanitize (upper (withReturns text)) = sanitize (upper text) :=
  sanitizeFrom_flatMap_withReturns (by decide) (by decide) text false

end Listing

namespace Token

/-- The second token is the first one in the text with returns. -/
structure Returned (statement : Text) (token other : Token) : Prop where
  kind : token.kind = other.kind
  text : other.text = withReturns token.text
  offset : other.offset = grown statement token.offset
  stop : other.stop = grown statement token.stop
  word : token.kind = .word → ∀ char ∈ token.text, isWordChar char = true

variable {statement : Text} {token other : Token}

theorem Returned.content (returned : Returned statement token other) :
    other.content = withReturns token.content := by
  rw [Token.content, Token.content, returned.text, unquote_withReturns]

theorem plainName?_of_not_plain
    (notPlain : isPlainName token.content = false) :
    token.plainName? = none := by
  simp [plainName?, notPlain]

theorem Returned.plainName? (returned : Returned statement token other) :
    token.plainName? = other.plainName? := by
  have isName : token.isName = other.isName := by
    rw [Token.isName, Token.isName, returned.kind]
  by_cases feed : .of '\n' ∈ token.content
  · have otherFeed : .of '\n' ∈ other.content := by
      rw [returned.content]
      exact mem_withReturns feed
    rw [plainName?_of_not_plain (isPlainName_of_lineFeed feed),
      plainName?_of_not_plain (isPlainName_of_lineFeed otherFeed)]
  · have sameContent : other.content = token.content := by
      rw [returned.content, withReturns_of_not_mem feed]
    simp only [Token.plainName?, isName, sameContent]

theorem Returned.alike (returned : Returned statement token other) :
    token.Alike Eq (fun said again => again = withReturns said) other := by
  refine ⟨returned.kind, ?_, optionRel_of_eq returned.plainName?, ?_,
    fun _ => returned.content⟩
  · intro isWord
    have noFeed : .of '\n' ∉ token.text := by
      intro feed
      have wordChar := returned.word isWord _ feed
      rw [Lexeme.inLine_isWordChar.noFeed] at wordChar
      cases wordChar
    rw [Token.upper, Token.upper, returned.text, withReturns_of_not_mem noFeed]
  · have head : other.text.head? = some (.of '"')
        ↔ token.text.head? = some (.of '"') := by
      rw [returned.text]
      exact head?_withReturns token.text ⟨by decide, by decide⟩
    have same : (other.text.head? == some (.of '"'))
        = (token.text.head? == some (.of '"')) := by
      rw [Bool.eq_iff_iff, beq_iff_eq, beq_iff_eq]
      exact head
    rw [Token.isText, Token.isText, returned.kind, same]

/-- Lexemes that are what is left of the text give the same tokens as with
returns. -/
theorem placed_returned {rest : List Lexeme} {place other : Place}
    (left : statement.drop place.offset = rest.flatMap Lexeme.text)
    (offset : other.offset = grown statement place.offset)
    (words : ∀ lexeme ∈ rest, lexeme.kind = .word →
      ∀ char ∈ lexeme.text, isWordChar char = true) :
    List.Forall₂ (Returned statement) (placed place rest)
      (placed other (rest.map Lexeme.withReturns)) := by
  induction rest generalizing place other with
  | nil => exact .cons ⟨rfl, rfl, offset, offset, nofun⟩ .nil
  | cons lexeme rest induction =>
      obtain ⟨word, laterWords⟩ := List.forall_mem_cons.mp words
      have stop : other.offset + (withReturns lexeme.text).length
          = grown statement (place.offset + lexeme.text.length) := by
        rw [grown_add, ← offset, left, List.flatMap_cons, grown_length_append]
      refine .cons ⟨rfl, rfl, offset, stop, word⟩ (induction ?_ ?_ laterWords)
      · rw [Place.offset_after, ← List.drop_drop, left, List.flatMap_cons,
          List.drop_left]
      · rw [Place.offset_after, Place.offset_after]
        exact stop

theorem stream_returned (breaks : PlainBreaks statement) :
    List.Forall₂ (Returned statement) (stream statement)
      (stream (withReturns statement)) := by
  unfold stream
  rw [Lexeme.lexemes_withReturns breaks]
  refine List.rel_filter ?_ (placed_returned ?_ rfl ?_)
  · intro token other returned
    simp only [returned.kind]
  · exact (flatMap_lexemes statement).symm
  · intro lexeme member
    exact Lexeme.isWordChar_of_mem_lexemes member

end Token

namespace Declaration

theorem slice_withReturns (text : Text) (start stop : Nat) :
    slice (withReturns text) (grown text start) (grown text stop)
      = withReturns (slice text start stop) := by
  unfold slice
  rw [drop_grown]
  rcases Nat.le_total start stop with forward | backward
  · obtain ⟨length, rfl⟩ := Nat.exists_eq_add_of_le forward
    rw [grown_add, Nat.add_sub_cancel_left, Nat.add_sub_cancel_left,
      take_grown]
  · rw [Nat.sub_eq_zero_of_le backward,
      Nat.sub_eq_zero_of_le (grown_mono backward), List.take_zero,
      List.take_zero, withReturns_nil]

namespace Parts

/-- Parts of declarations of a text and of the text with returns. -/
abbrev Returned (text : Text) : Parts → Parts → Prop :=
  Parts.Alike Eq (fun said again => again = withReturns said)
    (Token.Returned text)

variable {text : Text} {parts other : Parts}

theorem Alike.typeText (returned : parts.Returned text other) :
    other.typeText (withReturns text) = withReturns (parts.typeText text) := by
  rw [Parts.typeText, Parts.typeText, returned.type.offset,
    returned.last.stop, slice_withReturns]

theorem Alike.row (returned : parts.Returned text other)
    {style : ListingStyle} (sanitizes : style.sanitize = true) :
    Listing.row style (Listing.fieldsOf (parts.column text))
      = Listing.row style
        (Listing.fieldsOf (other.column (withReturns text))) := by
  simp only [Listing.row, Listing.fieldsOf, column, List.map_cons,
    List.map_nil, Listing.field, sanitizes, if_true, Option.getD_some,
    returned.name, returned.comment, returned.typeText,
    Listing.sanitize_withReturns, Listing.sanitize_upper_withReturns]

theorem rows_returned {items others : List Parts}
    (returned : List.Forall₂ (Returned text) items others)
    {style : ListingStyle} (sanitizes : style.sanitize = true) :
    (items.map (column text)).map
        (fun column => Listing.row style (Listing.fieldsOf column))
      = (others.map (column (withReturns text))).map
        fun column => Listing.row style (Listing.fieldsOf column) := by
  rw [List.map_map, List.map_map]
  exact map_eq_of_forall₂ (fun _ _ alike => alike.row sanitizes) returned

theorem names_returned {items others : List Parts}
    (returned : List.Forall₂ (Returned text) items others) :
    (items.map (column text)).map Column.name
      = (others.map (column (withReturns text))).map Column.name := by
  rw [List.map_map, List.map_map]
  apply map_eq_of_forall₂ ?_ returned
  intro parts other alike
  simp only [Function.comp_apply, column, alike.name]

end Parts

end Declaration

/-- The failures are of the same kind.  Only the place of a parenthesis may
differ. -/
inductive ParseFault.Alike : ParseFault → ParseFault → Prop where
  | same (fault : ParseFault) : Alike fault fault
  | moved (offset other depth : Nat) :
      Alike (.columnBlockNotFound offset depth)
        (.columnBlockNotFound other depth)

/-- Both readings fail alike, or the tables have the same names and look the
same in listings of the style. -/
inductive Table.Reread (style : ListingStyle) :
    Except ParseFault Table → Except ParseFault Table → Prop where
  | failed {fault other : ParseFault} (alike : fault.Alike other) :
      Reread style (.error fault) (.error other)
  | read {table other : Table} (name : table.name = other.name)
      (schema : table.schema = other.schema)
      (count : table.columns.length = other.columns.length)
      (columnNames : table.columnNames = other.columnNames)
      (listing : table.listing style = other.listing style) :
      Reread style (.ok table) (.ok other)

/-- Tables are read alike if their columns come from the parts of a text and
from the same parts with returns. -/
theorem Table.Reread.of_parts {style : ListingStyle} {table other : Table}
    {text : Text} {items others : List Declaration.Parts}
    (name : table.name = other.name) (schema : table.schema = other.schema)
    (columns : table.columns = items.map (Declaration.Parts.column text))
    (otherColumns : other.columns
      = others.map (Declaration.Parts.column (withReturns text)))
    (parts : List.Forall₂ (Declaration.Parts.Returned text) items others)
    (sanitizes : style.sanitize = true) :
    Reread style (.ok table) (.ok other) := by
  have count : table.columns.length = other.columns.length := by
    rw [columns, otherColumns, List.length_map, List.length_map,
      parts.length_eq]
  have names : table.columnNames = other.columnNames := by
    rw [columnNames, columnNames, columns, otherColumns]
    exact Declaration.Parts.names_returned parts
  have listing : table.listing style = other.listing style := by
    have rows := Declaration.Parts.rows_returned parts sanitizes
    rw [Table.listing, Table.listing, Listing.lines, Listing.lines, name,
      columns, otherColumns, rows]
  exact .read name schema count names listing

namespace Located

theorem exists_read_of_unclosed (openings : List Opening) {located : Located}
    {depth : Nat}
    (failed : Block.closeOf located.tokens located.header.opening
      = .error depth) :
    ∃ offset, located.read openings
      = .error (.columnBlockNotFound offset depth) :=
  ⟨_, read_eq_of_unclosed openings failed⟩

variable {text : Text} (breaks : PlainBreaks text) (openings : List Opening)
  (header : Header)

include breaks

theorem parts_returned (closing : Nat) :
    List.Forall₂ (Declaration.Parts.Returned text)
      ((ofHeader text header).parts openings closing)
      ((ofHeader (withReturns text) header).parts openings closing) := by
  have relate : List.Forall₂ (Token.Returned text)
      (ofHeader text header).tokens
      (ofHeader (withReturns text) header).tokens :=
    Token.stream_returned breaks
  refine parts_alike (fun _ _ => Token.Returned.alike) rfl ?_ relate rfl
    openings closing
  rintro name _ rfl
  rfl

theorem closeOf_returned :
    Block.closeOf (ofHeader text header).tokens header.opening
      = Block.closeOf (ofHeader (withReturns text) header).tokens
        header.opening :=
  Block.closeOf_alike (fun _ _ => Token.Returned.alike)
    (Token.stream_returned breaks) header.opening

theorem declarations_returned (closing : Nat) :
    (Block.declarations ((ofHeader text header).block closing)).length
      = (Block.declarations
        ((ofHeader (withReturns text) header).block closing)).length :=
  (Block.declarations_related (fun _ _ => Token.Returned.alike)
    (Block.between_related (Token.stream_returned breaks) header.opening
      closing)).length_eq

theorem read_returned {style : ListingStyle}
    (sanitizes : style.sanitize = true) :
    Table.Reread style ((ofHeader text header).read openings)
      ((ofHeader (withReturns text) header).read openings) := by
  have sameEnd := closeOf_returned breaks header
  cases closed : Block.closeOf (ofHeader text header).tokens
      header.opening with
  | error depth =>
      obtain ⟨offset, failed⟩ := exists_read_of_unclosed openings closed
      obtain ⟨other, otherFailed⟩ :=
        exists_read_of_unclosed openings (sameEnd.symm.trans closed)
      rw [failed, otherFailed]
      exact .failed (.moved offset other depth)
  | ok closing =>
      have parts := parts_returned breaks openings header closing
      have read := read_of_closed openings closed
      have otherRead := read_of_closed openings (sameEnd.symm.trans closed)
      rw [columns_eq_map] at read otherRead
      rcases read with ⟨none, failed⟩ | ⟨table, made, name, schema, columns⟩
      · rcases otherRead with
          ⟨-, otherFailed⟩ | ⟨other, -, -, -, otherColumns⟩
        · rw [failed, otherFailed, declarations_returned breaks header closing]
          exact .failed (.same _)
        · rw [List.map_eq_nil_iff.mp none, List.forall₂_nil_left_iff] at parts
          rw [parts] at otherColumns
          exact absurd otherColumns other.columns_ne_nil
      · rcases otherRead with
          ⟨none, -⟩ | ⟨other, otherMade, otherName, otherSchema, otherColumns⟩
        · rw [List.map_eq_nil_iff.mp none, List.forall₂_nil_right_iff] at parts
          rw [parts] at columns
          exact absurd columns table.columns_ne_nil
        · rw [made, otherMade]
          exact .of_parts (name.trans otherName.symm)
            (schema.trans otherSchema.symm) columns otherColumns parts sanitizes

end Located

namespace Table

theorem parse_of_single [Splitter] {openings : List Opening} {text : Text}
    (single : Splitter.statements text = [text]) :
    parse openings (some text)
      = if isBlankText text then .error .emptyInput
        else
          match Header.find? (Token.stream text) with
          | none => .error .tableNameNotFound
          | some header => (Located.ofHeader text header).read openings := by
  have found : Located.find? text
      = (Header.find? (Token.stream text)).map (Located.ofHeader text) := by
    rw [Located.find?, single, List.findSome?_singleton]
    rfl
  rw [parse, Survey.ofScript, found]
  split
  · rfl
  · cases Header.find? (Token.stream text) with
    | none => rfl
    | some header => rfl

/-- Carriage returns in front of line feeds change nothing that a sanitized
listing shows. -/
theorem reread_withReturns [Splitter] {text : Text} (breaks : PlainBreaks text)
    (single : Splitter.statements text = [text])
    (otherSingle : Splitter.statements (withReturns text) = [withReturns text])
    (openings : List Opening) {style : ListingStyle}
    (sanitizes : style.sanitize = true) :
    Reread style (parse openings (some text))
      (parse openings (some (withReturns text))) := by
  have headers : Header.find? (Token.stream text)
      = Header.find? (Token.stream (withReturns text)) :=
    Header.find?_eq (fun _ _ => Token.Returned.alike)
      (Token.stream_returned breaks)
  rw [parse_of_single single, parse_of_single otherSingle, ← headers,
    isBlankText_withReturns]
  split
  · exact .failed (.same _)
  · cases Header.find? (Token.stream text) with
    | none => exact .failed (.same _)
    | some header =>
        exact Located.read_returned breaks openings header sanitizes

/-- A statement of three lines, one of which ends inside a comment. -/
def threeLines : Text := "CREATE TABLE t(\na b COMMENT 'x\ny')"

theorem reread_threeLines :
    PlainBreaks threeLines ∧ Splitter.statements threeLines = [threeLines]
      ∧ Splitter.statements (withReturns threeLines) = [withReturns threeLines]
      ∧ Reread .standard (parse Opening.standard (some threeLines))
        (parse Opening.standard (some (withReturns threeLines))) := by
  have breaks : PlainBreaks threeLines :=
    ⟨by decide +kernel, by decide +kernel⟩
  have single : Splitter.statements threeLines = [threeLines] := by
    decide +kernel
  have otherSingle : Splitter.statements (withReturns threeLines)
      = [withReturns threeLines] := by
    decide +kernel
  exact ⟨breaks, single, otherSingle,
    reread_withReturns breaks single otherSingle Opening.standard rfl⟩

end Table

end SchemaSheet
