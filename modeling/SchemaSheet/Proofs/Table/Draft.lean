import SchemaSheet.Proofs.Token.Reading
import SchemaSheet.Table.Declaration

/-!
# Drafts of tables

A draft says how a table is to be written: the quotes of each name, the word
and the parameters of each type, and the comments.  `TableDraft.write` is the
statement and `TableDraft.table` the table that it describes.
`TableDraft.lexemes_write` gives the lexemes of the statement.
-/

namespace SchemaSheet

/-- The quotes that a name may stand in. -/
inductive NameQuote where
  | backquotes
  | doubleQuotes
  deriving DecidableEq, Repr

/-- The quote as a character. -/
def NameQuote.mark : NameQuote → Character
  | backquotes => backquote
  | doubleQuotes => '"'

/-- A plain name with the quotes that it stands in. -/
structure QuotedName where
  name : PlainName
  quote : NameQuote
  deriving DecidableEq, Repr

/-- A text without backslashes. -/
structure CleanText where
  text : Text
  clean : Character.of '\\' ∉ text
  deriving DecidableEq, Repr

/-- A parameter of a type: digits or a text. -/
inductive Parameter where
  | digits (text : Text) (nonempty : text ≠ [])
      (allDigits : ∀ char ∈ text, isDigit char = true)
  | literal (content : CleanText)
  deriving Repr

/-- A plain name with a character that is no digit. -/
structure TypeWord where
  text : Text
  plain : Text.isPlainName text = true
  notNumber : text.all isDigit = false
  deriving Repr

/-- A column that is to be written.  Without parameters no parentheses are
written. -/
structure ColumnDraft where
  name : QuotedName
  word : TypeWord
  parameters : List Parameter
  comment : CleanText
  unreserved : Text.upper name.name.text ∉ Declaration.reservedNames
  deriving Repr

/-- A table that is to be written, with the names that stand in front of its
name. -/
structure TableDraft where
  qualifiers : List QuotedName
  name : QuotedName
  columns : List ColumnDraft
  columns_ne_nil : columns ≠ []
  deriving Repr

namespace QuotedName

def write (name : QuotedName) : Text :=
  Text.quoted name.quote.mark name.name.text

end QuotedName

namespace Parameter

def write : Parameter → Text
  | digits text _ _ => text
  | literal content => Text.quoted '\'' content.text

/-- The parameters in parentheses, with commas between them. -/
def writeAll : List Parameter → Text
  | [] => []
  | parameters =>
      "(" ++ ("," : Text).intercalate (parameters.map write) ++ ")"

end Parameter

namespace ColumnDraft

/-- The type with its parameters. -/
def type (draft : ColumnDraft) : Text :=
  draft.word.text ++ Parameter.writeAll draft.parameters

def write (draft : ColumnDraft) : Text :=
  draft.name.write ++ " " ++ draft.type ++ " COMMENT "
    ++ Text.quoted '\'' draft.comment.text

/-- The column that is meant. -/
def column (draft : ColumnDraft) : Column :=
  { name := some draft.name.name.text
    type := some (Text.upper draft.type)
    comment := some draft.comment.text }

end ColumnDraft

namespace TableDraft

/-- The statement that creates the table, with a column on each line. -/
def write (draft : TableDraft) : Text :=
  "CREATE TABLE "
    ++ ("." : Text).intercalate
      ((draft.qualifiers ++ [draft.name]).map QuotedName.write)
    ++ " (\n"
    ++ (",\n" : Text).intercalate (draft.columns.map ColumnDraft.write)
    ++ "\n)"

/-- The schema that is meant: the names in front, joined by points. -/
def schema (draft : TableDraft) : Option Text :=
  if draft.qualifiers.isEmpty then none
  else some (("." : Text).intercalate
    (draft.qualifiers.map fun qualifier => qualifier.name.text))

/-- The table that is meant. -/
def table (draft : TableDraft) : Table :=
  { name := draft.name.name.text
    columns := draft.columns.map ColumnDraft.column
    schema := draft.schema
    name_ne_nil := draft.name.name.text_ne_nil
    columns_ne_nil := by simp [draft.columns_ne_nil] }

end TableDraft

namespace QuotedName

def lexeme (name : QuotedName) : Lexeme := ⟨.quotedName, name.write⟩

theorem backslash_not_mem (name : QuotedName) :
    Character.of '\\' ∉ name.name.text :=
  Text.not_mem_of_isPlainName name.name.plain (by decide +kernel)

theorem lexemes_write (name : QuotedName) {rest : Text}
    (ends : rest.head? ≠ some name.quote.mark) :
    lexemes (name.write ++ rest) = name.lexeme :: lexemes rest := by
  obtain ⟨escapes, opens⟩ : ∃ escapes,
      Lexeme.Starter.of name.quote.mark = .quote .quotedName escapes := by
    cases name.quote with
    | backquotes =>
        refine ⟨false, Lexeme.Starter.of_eq_of_mem ?_⟩
        simp [Lexeme.Starter.table, NameQuote.mark]
    | doubleQuotes =>
        refine ⟨true, Lexeme.Starter.of_eq_of_mem ?_⟩
        simp [Lexeme.Starter.table, NameQuote.mark]
  exact Lexeme.lexemes_quoted opens (fun _ => name.backslash_not_mem) ends

end QuotedName

/-- A text in single quotes is one lexeme in front of anything but another
single quote. -/
theorem CleanText.lexemes_quoted (content : CleanText) {rest : Text}
    (ends : rest.head? ≠ some (.of '\'')) :
    lexemes (Text.quoted '\'' content.text ++ rest)
      = ⟨.quotedText, Text.quoted '\'' content.text⟩ :: lexemes rest := by
  have opens : Lexeme.Starter.of '\'' = .quote .quotedText true :=
    Lexeme.Starter.of_eq_of_mem (by simp [Lexeme.Starter.table])
  exact Lexeme.lexemes_quoted opens (fun _ => content.clean) ends

/-- The words of a statement. -/
def keywords : List Text := ["CREATE", "TABLE", "COMMENT"]

theorem keyword_spec : ∀ word ∈ keywords,
    Text.isPlainName word = true ∧ word.all isDigit = false
      ∧ Text.upper word = word := by
  decide +kernel

theorem lexemes_keyword {word rest : Text} (member : word ∈ keywords)
    (ends : Lexeme.Ends rest) :
    lexemes (word ++ rest) = ⟨.word, word⟩ :: lexemes rest := by
  obtain ⟨plain, notNumber, -⟩ := keyword_spec word member
  exact Lexeme.lexemes_word plain notNumber ends.beginsWord

namespace Parameter

def lexeme : Parameter → Lexeme
  | digits text _ _ => ⟨.number, text⟩
  | literal content => ⟨.quotedText, Text.quoted '\'' content.text⟩

/-- The lexemes between the parentheses. -/
def readInner (parameters : List Parameter) : List Lexeme :=
  ([⟨.comma, ","⟩] : List Lexeme).intercalate
    (parameters.map fun parameter => [parameter.lexeme])

def readAll : List Parameter → List Lexeme
  | [] => []
  | parameters =>
      ⟨.openParen, "("⟩ :: (readInner parameters ++ [⟨.closeParen, ")"⟩])

theorem lexemes_write (parameter : Parameter) {rest : Text}
    (ends : Lexeme.Ends rest) :
    lexemes (parameter.write ++ rest) = [parameter.lexeme] ++ lexemes rest := by
  cases parameter with
  | digits text nonempty allDigits =>
      exact Lexeme.lexemes_number nonempty allDigits ends.beginsWord
        ends.ne_dot
  | literal content => exact content.lexemes_quoted ends.ne_quote

theorem lexemes_writeAll (parameters : List Parameter) (rest : Text) :
    lexemes (writeAll parameters ++ rest)
      = readAll parameters ++ lexemes rest := by
  cases parameters with
  | nil => rfl
  | cons first others =>
      have comma : ∀ rest, lexemes (("," : Text) ++ rest)
          = [⟨.comma, ","⟩] ++ lexemes rest := Lexeme.lexemes_comma
      have inner := Lexeme.lexemes_intercalate
        (List.cons_ne_nil first others)
        (fun parameter _ rest ends => parameter.lexemes_write ends)
        comma Lexeme.Ends.comma (Lexeme.Ends.closeParen rest)
      calc
        lexemes (writeAll (first :: others) ++ rest)
          = lexemes (.of '(' :: (("," : Text).intercalate
              ((first :: others).map write) ++ .of ')' :: rest)) := by
            simp [writeAll, Text.ofString, Text.ofChars]
        _ = readAll (first :: others) ++ lexemes rest := by
            rw [Lexeme.lexemes_openParen, inner, Lexeme.lexemes_closeParen]
            simp [readAll, readInner, Text.ofString, Text.ofChars]

end Parameter

namespace ColumnDraft

/-- The lexemes of the type with its parameters. -/
def readType (draft : ColumnDraft) : List Lexeme :=
  ⟨.word, draft.word.text⟩ :: Parameter.readAll draft.parameters

def read (draft : ColumnDraft) : List Lexeme :=
  draft.name.lexeme :: ⟨.blank, " "⟩ :: (draft.readType
    ++ [⟨.blank, " "⟩, ⟨.word, "COMMENT"⟩, ⟨.blank, " "⟩,
      ⟨.quotedText, Text.quoted '\'' draft.comment.text⟩])

theorem beginsWord_writeAll (parameters : List Parameter) {rest : Text}
    (ends : Lexeme.beginsWord rest = false) :
    Lexeme.beginsWord (Parameter.writeAll parameters ++ rest) = false := by
  cases parameters with
  | nil => exact ends
  | cons first others =>
      have mark : isWordChar '(' = false :=
        Lexeme.Starter.isWordChar_of_mem_marks (by decide)
      simpa [Parameter.writeAll, Lexeme.beginsWord, Text.ofString,
        Text.ofChars] using mark

theorem lexemes_type (draft : ColumnDraft) {rest : Text}
    (ends : Lexeme.beginsWord rest = false) :
    lexemes (draft.type ++ rest)
      = draft.readType ++ lexemes rest := by
  rw [type, List.append_assoc,
    Lexeme.lexemes_word draft.word.plain draft.word.notNumber
      (beginsWord_writeAll _ ends),
    Parameter.lexemes_writeAll]
  rfl

theorem not_blank_type (draft : ColumnDraft) (rest : Text) :
    (draft.type ++ rest).head?.any Lexeme.isLineBlank = false := by
  have plain := draft.word.plain
  simp only [Text.isPlainName, Bool.and_eq_true, List.all_eq_true] at plain
  cases word : draft.word.text with
  | nil => simp [word] at plain
  | cons char later =>
      have isWord : isWordChar char = true := plain.2 char (by simp [word])
      cases blank : Lexeme.isLineBlank char with
      | false => simpa [type, word] using blank
      | true =>
          rw [Lexeme.Starter.isWordChar_of_isLineBlank blank] at isWord
          cases isWord

theorem lexemes_write (draft : ColumnDraft) {rest : Text}
    (ends : Lexeme.Ends rest) :
    lexemes (draft.write ++ rest) = draft.read ++ lexemes rest := by
  have apart : Character.of ' ' ≠ draft.name.quote.mark := by
    cases draft.name.quote <;> decide
  calc
    lexemes (draft.write ++ rest)
      = lexemes (draft.name.write ++ .of ' ' :: (draft.type ++ .of ' '
          :: (Text.ofString "COMMENT" ++ .of ' '
            :: (Text.quoted '\'' draft.comment.text ++ rest)))) := by
        simp [write, Text.ofString, Text.ofChars]
    _ = draft.read ++ lexemes rest := by
        rw [draft.name.lexemes_write (by simpa using apart),
          Lexeme.lexemes_space (draft.not_blank_type _),
          draft.lexemes_type (Lexeme.Ends.space _).beginsWord,
          Lexeme.lexemes_space rfl,
          lexemes_keyword (by simp [keywords]) (.space _),
          Lexeme.lexemes_space rfl,
          draft.comment.lexemes_quoted ends.ne_quote]
        simp [read, Text.ofString, Text.ofChars]

end ColumnDraft

namespace TableDraft

/-- All names of the draft's header, the table's own one last. -/
def names (draft : TableDraft) : List QuotedName :=
  draft.qualifiers ++ [draft.name]

def readNames (names : List QuotedName) : List Lexeme :=
  ([⟨.dot, "."⟩] : List Lexeme).intercalate
    (names.map fun name => [name.lexeme])

def readColumns (columns : List ColumnDraft) : List Lexeme :=
  ([⟨.comma, ","⟩, ⟨.lineBreak, "\n"⟩] : List Lexeme).intercalate
    (columns.map ColumnDraft.read)

def read (draft : TableDraft) : List Lexeme :=
  ⟨.word, "CREATE"⟩ :: ⟨.blank, " "⟩ :: ⟨.word, "TABLE"⟩ :: ⟨.blank, " "⟩
    :: (readNames draft.names ++ ⟨.blank, " "⟩ :: ⟨.openParen, "("⟩
      :: ⟨.lineBreak, "\n"⟩ :: (readColumns draft.columns
        ++ [⟨.lineBreak, "\n"⟩, ⟨.closeParen, ")"⟩]))

/-- What follows a name in a header. -/
def FollowsName (rest : Text) : Prop :=
  rest.head? = some (.of '.') ∨ rest.head? = some (.of ' ')

theorem lexemes_name (name : QuotedName) {rest : Text}
    (follows : FollowsName rest) :
    lexemes (name.write ++ rest) = [name.lexeme] ++ lexemes rest := by
  apply name.lexemes_write
  rcases follows with head | head <;> rw [head] <;>
    cases name.quote <;> decide

theorem lexemes_names (draft : TableDraft) (rest : Text) :
    lexemes (("." : Text).intercalate (draft.names.map QuotedName.write)
        ++ .of ' ' :: rest)
      = readNames draft.names ++ lexemes (.of ' ' :: rest) := by
  have nonempty : draft.names ≠ [] := by simp [names]
  have dotFollows : ∀ rest, FollowsName (("." : Text) ++ rest) := by
    intro rest
    exact .inl rfl
  exact Lexeme.lexemes_intercalate nonempty
    (fun name _ rest follows => lexemes_name name follows) Lexeme.lexemes_dot
    dotFollows (.inr rfl)

theorem lexemes_columns (draft : TableDraft) {rest : Text}
    (ends : Lexeme.Ends rest) :
    lexemes ((",\n" : Text).intercalate (draft.columns.map ColumnDraft.write)
        ++ rest)
      = readColumns draft.columns ++ lexemes rest := by
  have separator : ∀ rest, lexemes ((",\n" : Text) ++ rest)
      = [⟨.comma, ","⟩, ⟨.lineBreak, "\n"⟩] ++ lexemes rest := by
    intro rest
    calc
      lexemes ((",\n" : Text) ++ rest)
        = lexemes (.of ',' :: .of '\n' :: rest) := rfl
      _ = [⟨.comma, ","⟩, ⟨.lineBreak, "\n"⟩] ++ lexemes rest := by
          rw [Lexeme.lexemes_comma, Lexeme.lexemes_lineFeed]
          rfl
  have separatorEnds : ∀ rest, Lexeme.Ends ((",\n" : Text) ++ rest) := by
    intro rest
    exact .comma _
  exact Lexeme.lexemes_intercalate draft.columns_ne_nil
    (fun column _ rest ends => column.lexemes_write ends) separator
    separatorEnds ends

theorem not_blank_names (draft : TableDraft) (rest : Text) :
    (("." : Text).intercalate (draft.names.map QuotedName.write)
      ++ rest).head?.any Lexeme.isLineBlank = false := by
  have quotes : ∀ name : QuotedName,
      Lexeme.isLineBlank name.quote.mark = false := by
    intro name
    cases name.quote <;> decide
  cases names : draft.names with
  | nil => simp [TableDraft.names] at names
  | cons first others =>
      cases others with
      | nil => simpa [QuotedName.write, Text.quoted] using quotes first
      | cons second others =>
          rw [List.map_cons, List.map_cons, List.intercalate_cons_cons]
          simpa [QuotedName.write, Text.quoted] using quotes first

theorem lexemes_write (draft : TableDraft) :
    lexemes draft.write = draft.read := by
  calc
    lexemes draft.write
      = lexemes (Text.ofString "CREATE" ++ .of ' '
          :: (Text.ofString "TABLE" ++ .of ' '
            :: (("." : Text).intercalate (draft.names.map QuotedName.write)
              ++ .of ' ' :: .of '(' :: .of '\n'
                :: ((",\n" : Text).intercalate
                  (draft.columns.map ColumnDraft.write)
                    ++ [.of '\n', .of ')'])))) := by
        simp [write, names, Text.ofString, Text.ofChars]
    _ = draft.read := by
        rw [lexemes_keyword (by simp [keywords]) (.space _),
          Lexeme.lexemes_space rfl,
          lexemes_keyword (by simp [keywords]) (.space _),
          Lexeme.lexemes_space (draft.not_blank_names _),
          draft.lexemes_names, Lexeme.lexemes_space rfl,
          Lexeme.lexemes_openParen, Lexeme.lexemes_lineFeed,
          draft.lexemes_columns (.lineFeed _), Lexeme.lexemes_lineFeed,
          Lexeme.lexemes_closeParen]
        simp [read, lexemes, Text.ofString, Text.ofChars]

end TableDraft

end SchemaSheet
