import SchemaSheet.Proofs.Table.Depth
import SchemaSheet.Proofs.Table.NestedGroup

/-!
# Types with parameters

A column whose type has parameters is read as one column, whatever stands in the
parentheses: the type goes up to the parenthesis that closes the first one, and
only what follows it is searched for a comment.
-/

namespace SchemaSheet

/-- The text at the index follows the word `COMMENT`. -/
structure Announced (tokens : List Token) (index : Nat) (text : Token) :
    Prop where
  word : ∃ word, tokens[index]? = some word ∧ word.isThe "COMMENT" = true
  follows : tokens[index + 1]? = some text
  isText : text.isText = true

/-- The content of the first text that follows the word `COMMENT`, or nothing if
none does. -/
inductive FirstComment (tokens : List Token) : Text → Prop where
  | absent (never : ∀ index text, ¬Announced tokens index text) :
      FirstComment tokens []
  | given {index : Nat} {text : Token} (announced : Announced tokens index text)
      (earliest : ∀ other another, Announced tokens other another →
        index ≤ other) :
      FirstComment tokens text.content

theorem announced_cons_succ {token : Token} {rest : List Token} {index : Nat}
    {text : Token} :
    Announced (token :: rest) (index + 1) text ↔ Announced rest index text :=
  ⟨fun announced => ⟨announced.word, announced.follows, announced.isText⟩,
    fun announced => ⟨announced.word, announced.follows, announced.isText⟩⟩

theorem FirstComment.cons {token : Token} {rest : List Token} {comment : Text}
    (first : FirstComment rest comment)
    (not_here : ∀ text, ¬Announced (token :: rest) 0 text) :
    FirstComment (token :: rest) comment := by
  cases first with
  | absent never =>
      apply FirstComment.absent
      intro index text announced
      cases index with
      | zero => exact not_here text announced
      | succ index => exact never index text (announced_cons_succ.mp announced)
  | given announced earliest =>
      apply FirstComment.given (announced_cons_succ.mpr announced)
      intro other another further
      cases other with
      | zero => exact absurd further (not_here another)
      | succ other =>
          exact Nat.succ_le_succ
            (earliest other another (announced_cons_succ.mp further))

theorem Declaration.firstComment_comment (tokens : List Token) :
    FirstComment tokens (comment tokens) := by
  induction tokens with
  | nil => exact .absent fun _ _ announced => nomatch announced.follows
  | cons word rest induction =>
      cases rest with
      | nil => exact .absent fun _ _ announced => nomatch announced.follows
      | cons text later =>
          rw [comment]
          split
          case isTrue found =>
            obtain ⟨isComment, isText⟩ := Bool.and_eq_true_iff.mp found
            have announced : Announced (word :: text :: later) 0 text :=
              ⟨⟨word, rfl, isComment⟩, rfl, isText⟩
            exact .given announced fun _ _ _ => Nat.zero_le _
          case isFalse missing =>
            apply induction.cons
            rintro other ⟨⟨first, same, isComment⟩, follows, isText⟩
            cases same
            cases follows
            exact missing (Bool.and_eq_true_iff.mpr ⟨isComment, isText⟩)

/-- A declaration of a column whose type has parameters: a name, a word, tokens
in parentheses, and tokens behind them.  The tokens in the parentheses are
nested and hold no line break, and none of those behind them ends the
declaration. -/
structure TypedDeclaration where
  name : Token
  plain : PlainName
  type : Token
  opens : Token
  inside : List Token
  closes : Token
  rest : List Token
  named : name.plainName? = some plain
  unreserved : Text.upper plain.text ∉ Declaration.reservedNames
  isWord : type.isWord = true
  isOpening : opens.kind = .openParen
  nested : Block.Nested inside
  unbroken : ∀ token ∈ inside, token.kind ≠ .lineBreak
  isClosing : closes.kind = .closeParen
  undivided : Block.Unparted 0 rest

namespace TypedDeclaration

def tokens (declaration : TypedDeclaration) : List Token :=
  declaration.name :: declaration.type :: declaration.opens
    :: (declaration.inside ++ declaration.closes :: declaration.rest)

/-- The column has the name of the declaration, the text of the statement from
its word to the parenthesis that closes its parameters as its type, and the
first comment behind them. -/
structure Describes (declaration : TypedDeclaration) (statement : Text)
    (column : Column) : Prop where
  name : column.name = some declaration.plain.text
  type : ∃ before source after, statement = before ++ source ++ after
    ∧ before.length = declaration.type.offset
    ∧ (before ++ source).length = declaration.closes.stop
    ∧ column.type = some (Text.upper source)
  comment : ∃ comment, FirstComment declaration.rest comment
    ∧ column.comment = some comment

variable (declaration : TypedDeclaration)

theorem isName_name : declaration.name.isName = true :=
  (Token.plainName?_eq_some_iff.mp declaration.named).1

theorem isName_type : declaration.type.isName = true := by
  have isWord : declaration.type.kind = .word := eq_of_beq declaration.isWord
  simp [Token.isName, isWord]

theorem balance_tokens :
    Block.balance declaration.tokens = Block.balance declaration.rest := by
  simp only [tokens, Block.balance_cons, Block.balance_append,
    Block.step_of_isName declaration.isName_name,
    Block.step_of_isName declaration.isName_type,
    Block.step_of_openParen declaration.isOpening,
    Block.step_of_closeParen declaration.isClosing,
    declaration.nested.settled]
  omega

theorem unparted_tokens : Block.Unparted 0 declaration.tokens := by
  have closing : ∀ depth, Block.separates depth declaration.closes = false := by
    intro depth
    simp [Block.separates, declaration.isClosing]
  have opening : ∀ depth, Block.separates depth declaration.opens = false := by
    intro depth
    simp [Block.separates, declaration.isOpening]
  have inside := declaration.nested.unparted declaration.unbroken
  simpa [tokens, Block.unparted_cons, Block.unparted_append, closing, opening,
    Block.separates_of_isName declaration.isName_name,
    Block.separates_of_isName declaration.isName_type,
    Block.step_of_isName declaration.isName_name,
    Block.step_of_isName declaration.isName_type,
    Block.step_of_openParen declaration.isOpening,
    Block.step_of_closeParen declaration.isClosing,
    declaration.nested.settled, inside] using declaration.undivided

theorem typeEnd_eq :
    Declaration.typeEnd declaration.type (declaration.opens
        :: (declaration.inside ++ declaration.closes :: declaration.rest))
      = (declaration.closes, declaration.rest) := by
  rw [Declaration.typeEnd, if_pos declaration.isOpening,
    Declaration.closing?_nested declaration.nested declaration.isClosing]
  rfl

/-- The column that the declaration declares in a statement. -/
def column (statement : Text) : Column :=
  { name := some declaration.plain.text
    type := some (Text.upper (Declaration.slice statement
      declaration.type.offset declaration.closes.stop))
    comment := some (Declaration.comment declaration.rest) }

theorem column?_tokens (statement : Text) :
    Declaration.column? statement declaration.tokens
      = some (declaration.column statement) := by
  refine Declaration.column?_eq_some_iff.mpr
    ⟨_, _, _, declaration.plain, rfl, declaration.named, declaration.isWord,
      declaration.unreserved, ?_⟩
  rw [declaration.typeEnd_eq]
  rfl

theorem describes_column {statement : Text}
    (listed : declaration.tokens.Sublist (Token.stream statement)) :
    declaration.Describes statement (declaration.column statement) := by
  have ordered := (Token.pairwise_stream statement).sublist listed
  have precedes : declaration.type.Precedes declaration.closes :=
    (List.pairwise_cons.mp (List.pairwise_cons.mp ordered).2).1 _ (by simp)
  have proper : declaration.closes.kind ≠ .endOfText := by
    simp [declaration.isClosing]
  obtain ⟨before, after, whole, place, -⟩ := Token.exists_of_mem_stream
    (listed.mem (by simp [tokens])) proper
  have inside : declaration.closes.stop ≤ statement.length := by
    rw [Token.stop, place, whole]
    simp
  have forward : declaration.type.offset ≤ declaration.closes.stop :=
    Nat.le_trans (Nat.le_add_right _ _) precedes.stop_le
  obtain ⟨front, behind, divided, start, stop⟩ :=
    Declaration.exists_slice forward inside
  exact
    { name := rfl
      type := ⟨front, _, behind, divided, start, stop, rfl⟩
      comment := ⟨_, Declaration.firstComment_comment _, rfl⟩ }

end TypedDeclaration

/-- A declaration that declares a column is listed at its index, and all other
columns are named in front of it or behind it. -/
theorem Located.exists_columnsAt {openings : List Opening} {located : Located}
    {closing index : Nat} {declaration : List Token} {column : Column}
    (declared : (index, declaration)
      ∈ Block.declarationsAt (located.block closing))
    (made : located.columnOf? openings declaration = some column) :
    ∃ before after, located.columnsAt openings closing
        = before ++ (index, column) :: after
      ∧ (∀ entry ∈ before, entry.1 < index)
      ∧ ∀ entry ∈ after, index + declaration.length < entry.1 := by
  have ordered := Block.pairwise_declarationsAt (located.block closing)
  obtain ⟨before, after, divided⟩ := List.append_of_mem declared
  rw [divided, List.pairwise_append, List.pairwise_cons] at ordered
  obtain ⟨-, ⟨later, -⟩, earlier⟩ := ordered
  let columnAt (entry : Nat × List Token) : Option (Nat × Column) :=
    (located.columnOf? openings entry.2).map fun column => (entry.1, column)
  refine ⟨before.filterMap columnAt, after.filterMap columnAt, ?_, ?_, ?_⟩
  · rw [columnsAt, divided, List.filterMap_append, List.filterMap_cons, made]
    rfl
  · intro entry member
    obtain ⟨place, placed, found⟩ := List.mem_filterMap.mp member
    obtain ⟨other, -, rfl⟩ := Option.map_eq_some_iff.mp found
    have apart := earlier place placed _ List.mem_cons_self
    simp only [Block.Before] at apart
    omega
  · intro entry member
    obtain ⟨place, placed, found⟩ := List.mem_filterMap.mp member
    obtain ⟨other, -, rfl⟩ := Option.map_eq_some_iff.mp found
    exact later place placed

namespace Table

/-- A declaration outside nested parentheses whose type has parameters, and
which is no clause, declares one column, which it describes.  All other columns
are named in front of it or behind it. -/
theorem column_of_typed [Splitter] {openings : List Opening} {script : Text}
    {located : Located} {closing : Nat} (first : located.IsFirst script)
    (closed : located.Closes closing) (declaration : TypedDeclaration)
    {front behind : List Token}
    (block : located.block closing = front ++ declaration.tokens ++ behind)
    (level : Block.balance front = 0)
    (begins : ∀ last, front.getLast? = some last →
      last.kind = .comma ∨ last.kind = .lineBreak)
    (ends : ∀ next, behind.head? = some next → next.kind = .lineBreak
      ∨ next.kind = .comma ∧ Block.balance declaration.rest = 0)
    (noClause : Declaration.isClause openings declaration.tokens = false) :
    ∃ table column before after, parse openings (some script) = .ok table
      ∧ declaration.Describes located.statement column
      ∧ (located.columnsAt openings closing).map Prod.snd = table.columns
      ∧ located.columnsAt openings closing
        = before ++ (front.length, column) :: after
      ∧ (∀ entry ∈ before, entry.1 < front.length)
      ∧ ∀ entry ∈ after,
        front.length + declaration.tokens.length < entry.1 := by
  have nonempty : declaration.tokens ≠ [] := List.cons_ne_nil _ _
  have parts : ∀ next, behind.head? = some next →
      Block.separates (Block.balance declaration.tokens) next = true := by
    intro next head
    rw [declaration.balance_tokens]
    rcases ends next head with lineBreak | ⟨comma, outside⟩
    · simp [Block.separates, lineBreak]
    · simp [Block.separates, comma, outside]
  have declared : (front.length, declaration.tokens)
      ∈ Block.declarationsAt (located.block closing) := by
    obtain ⟨before, after, divided⟩ := Block.exists_declarationsAt level begins
      nonempty declaration.unparted_tokens parts
    rw [block, divided]
    simp
  have listed : declaration.tokens.Sublist
      (Token.stream located.statement) := by
    apply first.sublist_of_mem_declarations
    rw [← Block.map_snd_declarationsAt]
    exact List.mem_map_of_mem declared
  have made : located.columnOf? openings declaration.tokens
      = some (declaration.column located.statement) := by
    rw [Located.columnOf?, noClause, if_neg Bool.false_ne_true]
    exact declaration.column?_tokens located.statement
  obtain ⟨before, after, columns, earlier, later⟩ :=
    Located.exists_columnsAt declared made
  have member : (front.length, declaration.column located.statement)
      ∈ located.columnsAt openings closing := by
    rw [columns]
    simp
  obtain ⟨table, parsed, same⟩ :=
    Located.exists_table_of_mem_columnsAt first closed member
  exact ⟨table, _, before, after, parsed, declaration.describes_column listed,
    Located.map_snd_columnsAt.trans same.symm, columns, earlier, later⟩

/-- A column with a comment among its parameters and one behind them. -/
def commentedTwice : Text :=
  "CREATE TABLE u(e b(comment'',())comment'c',d)"

def tokenAt (kind : Kind) (text : Text) (offset : Nat) : Token :=
  ⟨kind, text, ⟨1, offset + 1, offset⟩⟩

/-- The first declaration of `commentedTwice`. -/
def typedTwice : TypedDeclaration :=
  { name := tokenAt .word "e" 15
    plain := ⟨"e", by decide +kernel⟩
    type := tokenAt .word "b" 17
    opens := tokenAt .openParen "(" 18
    inside :=
      [tokenAt .word "comment" 19, tokenAt .quotedText "''" 26,
        tokenAt .comma "," 28, tokenAt .openParen "(" 29,
        tokenAt .closeParen ")" 30]
    closes := tokenAt .closeParen ")" 31
    rest := [tokenAt .word "comment" 32, tokenAt .quotedText "'c'" 39]
    named := by decide +kernel
    unreserved := by decide +kernel
    isWord := rfl
    isOpening := rfl
    nested := ⟨by decide +kernel, by decide +kernel⟩
    unbroken := by decide +kernel
    isClosing := rfl
    undivided := by decide +kernel }

def locatedTwice : Located :=
  { statement := commentedTwice
    tokens := Token.stream commentedTwice
    header := ⟨[], ⟨"u", by decide +kernel⟩, 3⟩ }

theorem column_of_typed_commented_twice :
    locatedTwice.IsFirst commentedTwice ∧ locatedTwice.Closes 17
      ∧ locatedTwice.block 17 = [] ++ typedTwice.tokens
        ++ [tokenAt .comma "," 42, tokenAt .word "d" 43]
      ∧ ∃ table column before after,
        parse Opening.standard (some commentedTwice) = .ok table
          ∧ typedTwice.Describes commentedTwice column
          ∧ (locatedTwice.columnsAt Opening.standard 17).map Prod.snd
            = table.columns
          ∧ locatedTwice.columnsAt Opening.standard 17
            = before ++ (0, column) :: after
          ∧ (∀ entry ∈ before, entry.1 < 0)
          ∧ ∀ entry ∈ after, 0 + typedTwice.tokens.length < entry.1 := by
  have first : locatedTwice.IsFirst commentedTwice := by
    have alone : Splitter.statements commentedTwice = [commentedTwice] := by
      decide +kernel
    have found : Header.find? locatedTwice.tokens
        = some locatedTwice.header := by
      decide +kernel
    exact ⟨[], [], alone, List.forall_mem_nil _, rfl, found⟩
  have closed : locatedTwice.Closes 17 :=
    first.closeOf_eq_ok_iff.mp (by decide +kernel)
  have block : locatedTwice.block 17 = [] ++ typedTwice.tokens
      ++ [tokenAt .comma "," 42, tokenAt .word "d" 43] := by
    decide +kernel
  have ends : ∀ next,
      [tokenAt .comma "," 42, tokenAt .word "d" 43].head? = some next →
        next.kind = .lineBreak
          ∨ next.kind = .comma ∧ Block.balance typedTwice.rest = 0 := by
    rintro next ⟨⟩
    exact .inr ⟨rfl, by decide +kernel⟩
  exact ⟨first, closed, block,
    column_of_typed first closed typedTwice block rfl
      (fun last found => nomatch found) ends (by decide +kernel)⟩

end Table

end SchemaSheet
