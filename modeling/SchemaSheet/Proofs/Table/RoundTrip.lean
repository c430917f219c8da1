import SchemaSheet.Proofs.Settings.Opening
import SchemaSheet.Proofs.Table.DraftColumn
import SchemaSheet.Proofs.Table.Outcome
import SchemaSheet.Script.Statement

/-!
# Writing and reading a table

The statement that a draft writes is read as the table that the draft means,
whatever the comments and the parameters look like.
-/

namespace SchemaSheet

@[simp] theorem Located.columnOf?_nil (openings : List Opening)
    (located : Located) : located.columnOf? openings [] = none := by
  simp [columnOf?, Declaration.column?]

/-- Empty pieces declare nothing, so the columns of a block are the ones of all
its pieces. -/
theorem Located.columns_eq (openings : List Opening) (located : Located)
    (closing : Nat) :
    located.columns openings closing
      = (Block.allPieces 0 (located.block closing)).filterMap
        (located.columnOf? openings) := by
  have divided : Block.declarations (located.block closing)
      = (Block.allPieces 0 (located.block closing)).filter
        fun piece => !piece.isEmpty := rfl
  rw [columns, divided, List.filterMap_filter]
  congr 1
  funext piece
  cases piece with
  | nil => simp
  | cons token rest => rfl

namespace TableDraft

/-- Names joined by points and a parenthesis behind them are read as they were
written.  The header opens its columns at the parenthesis. -/
theorem names?_streamAt (qualifiers : List QuotedName) (name : QuotedName)
    (place : Place) (index : Nat) {paren : Token}
    (opens : paren.kind = .openParen) (rest : List Token) :
    Header.names? (((Token.streamAt place
          (readNames (qualifiers ++ [name])) ++ paren :: rest).zipIdx
            index).filter fun token => token.1.kind != .lineBreak)
      = some
        { qualifiers := qualifiers.map QuotedName.name
          name := name.name
          opening := index + (Token.streamAt place
            (readNames (qualifiers ++ [name]))).length } := by
  induction qualifiers generalizing place index with
  | nil =>
      have only : Token.streamAt place (readNames [name])
          = [name.token place] := rfl
      have kind : (name.token place).kind = .quotedName := rfl
      rw [List.nil_append, only]
      simp [kind, opens, Header.names?, name.plainName?_token]
  | cons first others induction =>
      obtain ⟨second, later, divided⟩ :
          ∃ second later, others ++ [name] = second :: later :=
        List.exists_cons_of_ne_nil (by simp)
      let point : Lexeme := ⟨.dot, "."⟩
      have names : readNames (first :: others ++ [name])
          = first.lexeme :: point :: readNames (others ++ [name]) := by
        rw [List.cons_append, divided]
        simp [readNames, point]
      have tokens : Token.streamAt place (readNames (first :: others ++ [name]))
          = first.token place :: ⟨.dot, ".", place.after first.lexeme⟩
            :: Token.streamAt ((place.after first.lexeme).after point)
              (readNames (others ++ [name])) := by
        rw [names]
        rfl
      have kind : (first.token place).kind = .quotedName := rfl
      have inner := induction ((place.after first.lexeme).after point)
        (index + 1 + 1)
      rw [tokens]
      simp [kind, Header.names?, first.plainName?_token, inner]
      omega

/-- What stands between two columns. -/
def separator : List Lexeme := [⟨.comma, ","⟩, ⟨.lineBreak, "\n"⟩]

theorem exists_streamAt_readColumns (first second : ColumnDraft)
    (later : List ColumnDraft) (place : Place) :
    ∃ comma lineBreak,
      Token.streamAt place (readColumns (first :: second :: later))
        = Token.streamAt place first.read ++ comma :: lineBreak
          :: Token.streamAt (place.behind (first.read ++ separator))
            (readColumns (second :: later))
      ∧ comma.kind = .comma ∧ lineBreak.kind = .lineBreak := by
  have divided : readColumns (first :: second :: later)
      = first.read ++ separator ++ readColumns (second :: later) := by
    simp [readColumns, separator]
  rw [divided, Token.streamAt_append, Token.streamAt_append,
    List.append_assoc]
  exact ⟨_, _, rfl, rfl, rfl⟩

theorem close_readColumns (columns : List ColumnDraft) (place : Place)
    (index : Nat) (rest : List Token) :
    Block.close 1 index (Token.streamAt place (readColumns columns) ++ rest)
      = Block.close 1
        (index + (Token.streamAt place (readColumns columns)).length)
        rest := by
  induction columns generalizing place index with
  | nil => rfl
  | cons first others induction =>
      have passed := (first.carries_read place).close
      cases others with
      | nil =>
          have only : readColumns [first] = first.read := by
            simp [readColumns]
          rw [only]
          exact passed index rest
      | cons second later =>
          obtain ⟨comma, lineBreak, divided, commaKind, breakKind⟩ :=
            exists_streamAt_readColumns first second later place
          rw [divided, List.append_assoc, passed]
          simp only [List.cons_append, Block.close, commaKind, breakKind,
            induction, List.length_append, List.length_cons]
          congr 1
          omega

section Columns

variable {openings : List Opening} {located : Located}
  (proper : ∀ opening ∈ openings, opening ≠ [])

include proper

theorem columnOf?_read (draft : ColumnDraft) {before after : Text}
    {place : Place}
    (stands : located.statement = before ++ draft.write ++ after)
    (offset : place.offset = before.length) :
    located.columnOf? openings (Token.streamAt place draft.read)
      = some draft.column := by
  rw [Located.columnOf?, draft.isClause_read proper, if_neg (by simp)]
  exact draft.column?_read stands offset

/-- The columns that are written, with a line break behind the last one, divide
into the columns that are meant. -/
theorem columns_readColumns {columns : List ColumnDraft}
    (nonempty : columns ≠ []) {before after : Text} {place : Place}
    {lineBreak : Token} (breakKind : lineBreak.kind = .lineBreak)
    (stands : located.statement
      = before ++ (",\n" : Text).intercalate (columns.map ColumnDraft.write)
        ++ after)
    (offset : place.offset = before.length) :
    (Block.allPieces 0
        (Token.streamAt place (readColumns columns) ++ [lineBreak])).filterMap
          (located.columnOf? openings)
      = columns.map ColumnDraft.column := by
  induction columns generalizing before place with
  | nil => exact absurd rfl nonempty
  | cons first others induction =>
      have divides : ∀ rest, Block.pieces 0
            (Token.streamAt place first.read ++ rest)
          = (Token.streamAt place first.read ++ (Block.pieces 0 rest).1,
            (Block.pieces 0 rest).2) :=
        (first.carries_read place).pieces
      cases others with
      | nil =>
          have only : readColumns [first] = first.read := by
            simp [readColumns]
          have declared := columnOf?_read proper first
            (by simpa using stands) offset
          rw [only, Block.allPieces, divides]
          simp [Block.pieces, Block.separates, breakKind, declared]
      | cons second later =>
          obtain ⟨comma, inner, tokens, commaKind, innerKind⟩ :=
            exists_streamAt_readColumns first second later place
          have here : located.statement = before ++ first.write
              ++ (",\n" ++ (",\n" : Text).intercalate
                ((second :: later).map ColumnDraft.write) ++ after) := by
            rw [stands]
            simp
          have behind : located.statement = before ++ first.write ++ ",\n"
              ++ (",\n" : Text).intercalate
                ((second :: later).map ColumnDraft.write) ++ after := by
            rw [here]
            simp only [List.append_assoc]
          have declared := columnOf?_read proper first here offset
          have moved : (place.behind (first.read ++ separator)).offset
              = (before ++ first.write ++ ",\n").length := by
            rw [Place.offset_behind, List.flatMap_append, first.flatMap_read,
              offset]
            simp [separator, Text.ofString, Text.ofChars]
          have others := induction (List.cons_ne_nil second later) behind moved
          rw [tokens, List.append_assoc, Block.allPieces, divides]
          simpa [Block.pieces, Block.separates, commaKind, innerKind, declared,
            Block.allPieces] using others

end Columns

/-- The lexemes in front of the parenthesis. -/
def readHeader (draft : TableDraft) : List Lexeme :=
  ⟨.word, "CREATE"⟩ :: ⟨.blank, " "⟩ :: ⟨.word, "TABLE"⟩ :: ⟨.blank, " "⟩
    :: (readNames draft.names ++ [⟨.blank, " "⟩])

/-- The lexemes between the parentheses. -/
def readBlock (draft : TableDraft) : List Lexeme :=
  ⟨.lineBreak, "\n"⟩ :: (readColumns draft.columns ++ [⟨.lineBreak, "\n"⟩])

/-- The tokens in front of the parenthesis. -/
def headerTokens (draft : TableDraft) : List Token :=
  Token.streamAt .start draft.readHeader

/-- The place of the parenthesis. -/
def parenPlace (draft : TableDraft) : Place :=
  Place.start.behind draft.readHeader

/-- The tokens between the parentheses. -/
def blockTokens (draft : TableDraft) : List Token :=
  Token.streamAt (draft.parenPlace.after ⟨.openParen, "("⟩) draft.readBlock

theorem exists_stream_write (draft : TableDraft) :
    ∃ paren last mark, Token.stream draft.write
        = draft.headerTokens ++ paren :: (draft.blockTokens ++ [last, mark])
      ∧ paren.kind = .openParen ∧ last.kind = .closeParen := by
  have divided : draft.read = draft.readHeader
      ++ ([⟨.openParen, "("⟩]
        ++ (draft.readBlock ++ [⟨.closeParen, ")"⟩])) := by
    simp [read, readHeader, readBlock]
  rw [Token.stream_eq, lexemes_write, divided, Token.streamAt_append,
    Token.streamAt_append, Token.streamAt_append, List.append_assoc,
    List.append_assoc, List.append_assoc]
  exact ⟨_, _, _, rfl, rfl, rfl⟩

theorem exists_streamAt_readNames {names : List QuotedName}
    (nonempty : names ≠ []) (place : Place) :
    ∃ first later, Token.streamAt place (readNames names) = first :: later
      ∧ first.kind = .quotedName := by
  cases names with
  | nil => exact absurd rfl nonempty
  | cons first others =>
      cases others with
      | nil => exact ⟨first.token place, [], rfl, rfl⟩
      | cons second others =>
          have divided : readNames (first :: second :: others)
              = [first.lexeme]
                ++ (⟨.dot, "."⟩ :: readNames (second :: others)) := by
            simp [readNames]
          rw [divided, Token.streamAt_append]
          exact ⟨first.token place, _, rfl, rfl⟩

theorem afterCreate?_readNames (draft : TableDraft) (place : Place)
    {table paren : Token} (word : table.kind = .word)
    (text : table.text = "TABLE") (opens : paren.kind = .openParen)
    (rest : List Token) :
    Header.afterCreate? ((table, 1) :: ((Token.streamAt place
        (readNames draft.names) ++ paren :: rest).zipIdx 2).filter
          fun token => token.1.kind != .lineBreak)
      = some
        { qualifiers := draft.qualifiers.map QuotedName.name
          name := draft.name.name
          opening := 2
            + (Token.streamAt place (readNames draft.names)).length } := by
  have upper : table.upper = "TABLE" := by
    rw [Token.upper, text]
    exact (keyword_spec _ (by simp [keywords])).2.2
  have isWord : table.isWord = true := by simp [Token.isWord, word]
  have noReplacement : table.isThe "OR" = false := by
    rw [Token.isThe, isWord, upper]
    decide
  have noModifier : table.isAnyOf Header.modifiers = false := by
    rw [Token.isAnyOf, isWord, upper]
    decide
  have isTable : table.isThe "TABLE" = true := by
    rw [Token.isThe, isWord, upper]
    decide
  have names := names?_streamAt draft.qualifiers draft.name place 2 opens rest
  have nonempty : draft.names ≠ [] := by simp [TableDraft.names]
  obtain ⟨first, later, tokens, quoted⟩ :=
    exists_streamAt_readNames nonempty place
  have noCondition : first.isThe "IF" = false := by
    simp [Token.isThe, Token.isWord, quoted]
  have front : ((Token.streamAt place (readNames draft.names)
        ++ paren :: rest).zipIdx 2).filter
          (fun token => token.1.kind != .lineBreak)
      = (first, 2) :: ((later ++ paren :: rest).zipIdx 3).filter
        fun token => token.1.kind != .lineBreak := by
    simp [tokens, quoted]
  rw [Header.afterCreate?, Header.skipReplacement_cons _ noReplacement]
  simp only [Header.skipModifier, noModifier, Bool.false_eq_true, if_false,
    Header.pass?, isTable, if_true, Option.bind_eq_bind, Option.bind_some]
  rw [front, Header.skipCondition_cons _ noCondition, ← front]
  exact names

theorem find?_write (draft : TableDraft) :
    Header.find? (Token.stream draft.write)
      = some
        { qualifiers := draft.qualifiers.map QuotedName.name
          name := draft.name.name
          opening := draft.headerTokens.length } := by
  obtain ⟨paren, last, mark, stream, opens, -⟩ := draft.exists_stream_write
  let place := Place.start.behind
    [⟨.word, "CREATE"⟩, ⟨.blank, " "⟩, ⟨.word, "TABLE"⟩, ⟨.blank, " "⟩]
  obtain ⟨create, table, tokens, createWord, createText, tableWord, tableText⟩ :
      ∃ create table, draft.headerTokens = create :: table
          :: Token.streamAt place (readNames draft.names)
        ∧ create.kind = .word ∧ create.text = "CREATE"
        ∧ table.kind = .word ∧ table.text = "TABLE" := by
    have divided : draft.readHeader
        = [⟨.word, "CREATE"⟩, ⟨.blank, " "⟩, ⟨.word, "TABLE"⟩, ⟨.blank, " "⟩]
          ++ (readNames draft.names ++ [⟨.blank, " "⟩]) := rfl
    have skipped : ∀ place, Token.streamAt place [⟨.blank, " "⟩] = [] :=
      fun _ => rfl
    rw [headerTokens, divided, Token.streamAt_append, Token.streamAt_append,
      skipped, List.append_nil]
    exact ⟨_, _, rfl, rfl, rfl, rfl, rfl⟩
  have upper : create.upper = "CREATE" := by
    rw [Token.upper, createText]
    exact (keyword_spec _ (by simp [keywords])).2.2
  have isCreate : create.isThe "CREATE" = true := by
    simp [Token.isThe, Token.isWord, createWord, upper]
  have after := draft.afterCreate?_readNames place tableWord tableText opens
    (draft.blockTokens ++ [last, mark])
  have front : Header.significant (Token.stream draft.write)
      = (create, 0) :: (table, 1) :: ((Token.streamAt place
        (readNames draft.names) ++ paren :: (draft.blockTokens
          ++ [last, mark])).zipIdx 2).filter
            fun token => token.1.kind != .lineBreak := by
    simp [Header.significant, stream, tokens, createWord, tableWord]
  have length : draft.headerTokens.length
      = 2 + (Token.streamAt place (readNames draft.names)).length := by
    rw [tokens, List.length_cons, List.length_cons]
    omega
  rw [Header.find?, front, Header.first?, if_pos isCreate, after,
    Option.orElse_some, length]

/-- The statement with its tokens and its header. -/
def located (draft : TableDraft) : Located :=
  { statement := draft.write
    tokens := Token.stream draft.write
    header :=
      { qualifiers := draft.qualifiers.map QuotedName.name
        name := draft.name.name
        opening := draft.headerTokens.length } }

theorem schema_located (draft : TableDraft) :
    draft.located.header.schema = draft.schema := by
  simp only [located, Header.schema, schema, List.isEmpty_map, List.map_map]
  rfl

theorem isFirst_located [Splitter] {draft : TableDraft}
    (whole : Splitter.statements draft.write = [draft.write]) :
    draft.located.IsFirst draft.write :=
  ⟨[], [], whole, by simp, rfl, draft.find?_write⟩

theorem flatMap_readColumns (draft : TableDraft) :
    (readColumns draft.columns).flatMap Lexeme.text
      = (",\n" : Text).intercalate (draft.columns.map ColumnDraft.write) := by
  have ends : Lexeme.Ends ")" := .closeParen []
  have whole := congrArg (List.flatMap Lexeme.text)
    (draft.lexemes_columns ends)
  rw [List.flatMap_append, flatMap_lexemes, flatMap_lexemes] at whole
  exact (List.append_cancel_right whole).symm

/-- The statement in front of its columns. -/
def writeHeader (draft : TableDraft) : Text :=
  draft.readHeader.flatMap Lexeme.text ++ "(\n"

theorem write_eq (draft : TableDraft) :
    draft.write = draft.writeHeader
      ++ (",\n" : Text).intercalate (draft.columns.map ColumnDraft.write)
      ++ "\n)" := by
  rw [← flatMap_lexemes draft.write, lexemes_write, ← flatMap_readColumns]
  simp [read, readHeader, writeHeader, Text.ofString, Text.ofChars]

/-- The place of the first column. -/
def columnsPlace (draft : TableDraft) : Place :=
  draft.parenPlace.behind [⟨.openParen, "("⟩, ⟨.lineBreak, "\n"⟩]

theorem offset_columnsPlace (draft : TableDraft) :
    draft.columnsPlace.offset = draft.writeHeader.length := by
  rw [columnsPlace, Place.offset_behind, parenPlace, Place.offset_behind,
    writeHeader, List.length_append]
  simp [Place.start, Text.ofString, Text.ofChars]

theorem exists_blockTokens (draft : TableDraft) :
    ∃ first last, draft.blockTokens = first
        :: (Token.streamAt draft.columnsPlace (readColumns draft.columns)
          ++ [last])
      ∧ first.kind = .lineBreak ∧ last.kind = .lineBreak := by
  rw [blockTokens, readBlock, Token.streamAt_cons, if_neg (by decide),
    Token.streamAt_append]
  exact ⟨_, _, rfl, rfl, rfl⟩

/-- The index of the parenthesis that closes the block. -/
def closing (draft : TableDraft) : Nat :=
  draft.headerTokens.length + 1 + draft.blockTokens.length

theorem exists_drop_stream (draft : TableDraft) :
    ∃ last mark, (Token.stream draft.write).drop
        (draft.headerTokens.length + 1) = draft.blockTokens ++ [last, mark]
      ∧ last.kind = .closeParen := by
  obtain ⟨paren, last, mark, stream, -, closes⟩ := draft.exists_stream_write
  refine ⟨last, mark, ?_, closes⟩
  rw [stream, ← List.drop_drop, List.drop_left]
  rfl

theorem closeOf_located (draft : TableDraft) :
    Block.closeOf draft.located.tokens draft.located.header.opening
      = .ok draft.closing := by
  obtain ⟨last, mark, behind, closes⟩ := draft.exists_drop_stream
  obtain ⟨first, final, tokens, firstKind, finalKind⟩ :=
    draft.exists_blockTokens
  simp only [Block.closeOf, located, behind, closing, tokens]
  simp [Block.close, firstKind, close_readColumns, finalKind, closes]
  omega

theorem block_located (draft : TableDraft) :
    draft.located.block draft.closing = draft.blockTokens := by
  obtain ⟨last, mark, behind, -⟩ := draft.exists_drop_stream
  have length : draft.closing - (draft.headerTokens.length + 1)
      = draft.blockTokens.length := by
    rw [closing]
    omega
  simp only [Located.block, located, Block.between]
  rw [List.drop_take, behind, length, List.take_left]

theorem columns_located (draft : TableDraft) {openings : List Opening}
    (proper : ∀ opening ∈ openings, opening ≠ []) :
    draft.located.columns openings draft.closing
      = draft.columns.map ColumnDraft.column := by
  obtain ⟨first, last, tokens, firstKind, lastKind⟩ := draft.exists_blockTokens
  have stands : draft.located.statement = draft.writeHeader
      ++ (",\n" : Text).intercalate (draft.columns.map ColumnDraft.write)
      ++ "\n)" := draft.write_eq
  have inner := columns_readColumns proper draft.columns_ne_nil lastKind stands
    draft.offset_columnsPlace
  rw [Located.columns_eq, block_located, tokens, ← inner]
  simp [Block.allPieces, Block.pieces, Block.separates, firstKind]

end TableDraft

namespace Settings

theorem ne_nil_of_openingOf {item : Json} {opening : Opening}
    (made : openingOf item = .ok opening) : opening ≠ [] := by
  rcases openingOf_cases item with ⟨text, -, present, told⟩ | ⟨-, told⟩
  · rw [told] at made
    cases made
    exact mt openingIn_eq_nil_iff.mp (Bool.eq_false_iff.mp present)
  · rw [told] at made
    cases made

theorem ne_nil_of_addOpenings {start openings : List Opening}
    {items : List Json} (proper : ∀ opening ∈ start, opening ≠ [])
    (added : addOpenings start items = .ok openings) :
    ∀ opening ∈ openings, opening ≠ [] := by
  intro opening member
  rcases (mem_addOpenings added opening).mp member with old | ⟨item, -, made⟩
  · exact proper opening old
  · exact ne_nil_of_openingOf made

theorem ne_nil_of_mem_openings {settings : Settings}
    {openings : List Opening} (accepted : settings.openings = .ok openings) :
    ∀ opening ∈ openings, opening ≠ [] := by
  have standard : ∀ opening ∈ Opening.standard, opening ≠ [] := by
    decide
  simp only [Settings.openings] at accepted
  split at accepted
  · split at accepted
    · exact ne_nil_of_addOpenings standard accepted
    · cases accepted
  · cases accepted
    exact standard

end Settings

namespace Table

/-- A table that is written is read as it was meant, if its statement is one
statement. -/
theorem parse_write [Splitter] (draft : TableDraft) {settings : Settings}
    {openings : List Opening} (accepted : settings.openings = .ok openings)
    (whole : Splitter.statements draft.write = [draft.write]) :
    parse openings (some draft.write) = .ok draft.table := by
  have proper := Settings.ne_nil_of_mem_openings accepted
  have first := TableDraft.isFirst_located whole
  have closed := first.closeOf_eq_ok_iff.mp draft.closeOf_located
  exact parse_of_outcome (.table first closed rfl draft.schema_located.symm
    (draft.columns_located proper).symm)

/-- A draft with a parameter, and with a comment that looks like code. -/
def smallDraft : TableDraft :=
  { qualifiers := []
    name := ⟨⟨"t", by decide +kernel⟩, .backquotes⟩
    columns :=
      [{ name := ⟨⟨"a", by decide +kernel⟩, .doubleQuotes⟩
         word := ⟨"b", by decide +kernel, by decide +kernel⟩
         parameters := [.literal ⟨"',", by decide⟩]
         comment := ⟨"';(", by decide⟩
         unreserved := by decide +kernel }]
    columns_ne_nil := List.cons_ne_nil _ _ }

theorem parse_write_smallDraft :
    Settings.openings [] = .ok Opening.standard
      ∧ Splitter.statements smallDraft.write = [smallDraft.write]
      ∧ parse Opening.standard (some smallDraft.write)
        = .ok smallDraft.table := by
  have accepted : Settings.openings [] = .ok Opening.standard := by
    rfl
  have whole : Splitter.statements smallDraft.write = [smallDraft.write] := by
    decide +kernel
  exact ⟨accepted, whole, parse_write smallDraft accepted whole⟩

end Table

end SchemaSheet
