import SchemaSheet.Proofs.Table.Grid
import SchemaSheet.Text.Encoding

/-!
# Texts without halves

What is read from octets holds no half of a surrogate pair.  Neither does the
listing of a table that such a text describes: all that stands in it comes from
the text, but for upper case and for what listings put between their fields.
So such a listing can always be written as octets.
-/

namespace SchemaSheet

namespace Text

/-- No character of the text is half of a surrogate pair. -/
def IsWhole (text : Text) : Prop := ∀ char ∈ text, char.isHalf = false

namespace IsWhole

variable {text piece : Text}

theorem nil : IsWhole [] := fun _ member => absurd member List.not_mem_nil

theorem cons {char : Character} (own : char.isHalf = false)
    (whole : IsWhole text) : IsWhole (char :: text) :=
  List.forall_mem_cons.mpr ⟨own, whole⟩

/-- A text is whole if all its characters come from one that is. -/
theorem subset (whole : IsWhole text) (inside : piece ⊆ text) :
    IsWhole piece :=
  fun char member => whole char (inside member)

theorem ofChars (chars : List Char) : IsWhole (Text.ofChars chars) := by
  intro char member
  obtain ⟨own, _, rfl⟩ := List.mem_map.mp member
  rfl

theorem intercalate {between : Text} {texts : List Text}
    (apart : IsWhole between) (whole : ∀ text ∈ texts, IsWhole text) :
    IsWhole (between.intercalate texts) := by
  intro char member
  rcases Text.mem_intercalate member with parted | ⟨text, listed, inside⟩
  · exact apart char parted
  · exact whole text listed char inside

theorem upper (whole : IsWhole text) : IsWhole (Text.upper text) := by
  intro char member
  obtain ⟨original, here, inside⟩ := List.mem_flatMap.mp member
  cases original with
  | of own => exact ofChars _ char inside
  | half index => exact nomatch whole _ here

theorem lineFeeds (whole : IsWhole text) : IsWhole (Text.lineFeeds text) := by
  fun_induction Text.lineFeeds text with
  | case1 rest induction =>
      obtain ⟨_, _, later⟩ := List.forall_mem_cons.mp whole |>.imp_right
        List.forall_mem_cons.mp
      exact cons rfl (induction later)
  | case2 rest other induction =>
      exact cons rfl (induction (List.forall_mem_cons.mp whole).2)
  | case3 char rest pair single induction =>
      obtain ⟨own, later⟩ := List.forall_mem_cons.mp whole
      exact cons own (induction later)
  | case4 => exact nil

theorem encode (whole : IsWhole text) (escape : HalfEscape) :
    Utf8.encode escape text = .ok (Utf8.octets escape text) := by
  have accepted : text.findIdx? (Utf8.refuses escape) = none := by
    rw [List.findIdx?_eq_none_iff]
    intro char member
    simp only [Utf8.refuses, whole char member, Bool.false_and]
  rw [Utf8.encode, accepted]

end IsWhole

theorem isHalf_of_isWordChar {char : Character}
    (word : isWordChar char = true) : char.isHalf = false := by
  have apart : wordRanges.all (fun range => Nat.blt range.2 0xD800
      || Nat.blt 0xDFFF range.1) = true := by decide +kernel
  cases char with
  | of own => rfl
  | half index =>
      simp only [isWordChar, Character.isIn, Bool.false_or, Bool.or_eq_true,
        beq_iff_eq, reduceCtorEq, false_or] at word
      obtain ⟨range, listed, holds⟩ := List.any_eq_true.mp word
      have outside := List.all_eq_true.mp apart range listed
      simp only [CodeRange.holds_iff, Character.code, Character.firstHalf]
        at holds
      simp only [Bool.or_eq_true, Nat.blt_eq] at outside
      omega

theorem isWhole_of_isPlainName {name : Text}
    (plain : isPlainName name = true) : IsWhole name := by
  rw [isPlainName, Bool.and_eq_true] at plain
  intro char member
  exact isHalf_of_isWordChar (List.all_eq_true.mp plain.2 char member)

theorem replacePair_subset (first second char : Character) (text : Text) :
    replacePair first second char text ⊆ char :: text := by
  fun_induction replacePair first second char text with
  | case1 left right rest same induction =>
      refine List.cons_subset.mpr ⟨List.mem_cons_self, ?_⟩
      exact List.Subset.trans induction (List.cons_subset_cons _
        (List.subset_cons_of_subset _ (List.subset_cons_self _ _)))
  | case2 left right rest differ induction =>
      refine List.cons_subset.mpr ⟨by simp, ?_⟩
      exact List.Subset.trans induction
        (List.cons_subset_cons _ (List.subset_cons_self _ _))
  | case3 rest other => exact List.subset_cons_self _ _

theorem unescape_subset (quote : Character) (body : Text) :
    unescape quote body ⊆ quote :: body := by
  have single := replacePair_subset quote quote quote body
  unfold unescape
  simp only
  split
  · exact single
  · refine List.Subset.trans (replacePair_subset _ _ _ _) ?_
    exact List.cons_subset.mpr ⟨List.mem_cons_self, single⟩

theorem unquote_subset (text : Text) : unquote text ⊆ text := by
  unfold unquote
  split
  · exact List.Subset.refl _
  · split
    · exact List.Subset.trans (unescape_subset _ _)
        (List.cons_subset_cons _ (List.dropLast_subset _))
    · exact List.Subset.refl _

end Text

theorem isWhole_of_decodeFrom {octets : List UInt8} {offset : Nat}
    {text : Text}
    (decoded : Utf8.decodeFrom offset octets = .ok text) : text.IsWhole := by
  fun_induction Utf8.decodeFrom offset octets generalizing text with
  | case1 offset =>
      obtain rfl := Except.ok.inj decoded
      exact .nil
  | case2 offset first rest bad => exact nomatch decoded
  | case3 offset first rest owed bounds shape span reason step =>
      exact nomatch decoded
  | case4 offset first rest owed bounds shape code remaining step induction =>
      cases later : Utf8.decodeFrom (offset + owed + 1) remaining with
      | error fault => exact nomatch later ▸ decoded
      | ok text =>
          rw [later] at decoded
          obtain rfl := Except.ok.inj decoded
          exact .cons rfl (induction later)

theorem isWhole_of_readOctets {octets : List UInt8} {text : Text}
    (read : readOctets octets = .ok text) : text.IsWhole := by
  unfold readOctets at read
  cases decoded : Utf8.decode octets with
  | error reason => exact nomatch decoded ▸ read
  | ok original =>
      rw [decoded] at read
      obtain rfl := Except.ok.inj read
      exact (isWhole_of_decodeFrom decoded).lineFeeds

namespace Listing

open Text

variable {style : ListingStyle}

theorem isWhole_sanitizeFrom {text : Text} (whole : text.IsWhole)
    (inside : Bool) : (sanitizeFrom inside text).IsWhole := by
  induction text generalizing inside with
  | nil => exact .nil
  | cons char rest induction =>
      obtain ⟨own, later⟩ := List.forall_mem_cons.mp whole
      rw [sanitizeFrom]
      split
      · split
        · exact induction later true
        · exact .cons rfl (induction later true)
      · exact .cons own (induction later false)

theorem isWhole_field {value : Option Text}
    (whole : (value.getD []).IsWhole) : (field style value).IsWhole := by
  unfold field
  simp only
  split
  · exact isWhole_sanitizeFrom whole false
  · exact whole

theorem isWhole_row {fields : List (Option Text)}
    (whole : ∀ value ∈ fields, (value.getD []).IsWhole) :
    (row style fields).IsWhole := by
  refine .intercalate (.ofChars ['\t']) ?_
  intro text member
  obtain ⟨value, listed, rfl⟩ := List.mem_map.mp member
  exact isWhole_field (whole value listed)

theorem isWhole_titles : ∀ value ∈ titles, (value.getD []).IsWhole := by
  intro value member
  simp only [titles, List.mem_cons, List.not_mem_nil, or_false] at member
  rcases member with rfl | rfl | rfl
  · exact .ofChars _
  · exact .ofChars _
  · exact .ofChars _

end Listing

/-- The texts of the table hold no half of a surrogate pair. -/
structure Table.IsWhole (table : Table) : Prop where
  name : table.name.IsWhole
  columns : ∀ column ∈ table.columns, ∀ value ∈ Listing.fieldsOf column,
    (value.getD []).IsWhole

theorem Table.IsWhole.listing {table : Table} (whole : table.IsWhole)
    (style : ListingStyle) : (table.listing style).IsWhole := by
  refine .intercalate (.ofChars ['\n']) ?_
  intro line member
  simp only [Listing.lines, List.cons_append, List.mem_cons, List.mem_append,
    List.mem_map] at member
  rcases member with rfl | titles | ⟨column, listed, rfl⟩
  · exact Listing.isWhole_field whole.name
  · split at titles
    · obtain rfl := List.mem_singleton.mp titles
      exact Listing.isWhole_row Listing.isWhole_titles
    · exact absurd titles List.not_mem_nil
  · exact Listing.isWhole_row (whole.columns column listed)

theorem Token.text_subset {text : Text} {token : Token}
    (member : token ∈ Token.stream text) : token.text ⊆ text := by
  rw [stream_eq, List.mem_append] at member
  rcases member with inner | last
  · obtain ⟨before, lexeme, after, divided, made⟩ :=
      exists_of_mem_tokensAt (List.mem_filter.mp inner).1
    intro char inside
    rw [← flatMap_lexemes text, divided]
    rw [made] at inside
    simp [inside]
  · rw [List.mem_singleton.mp last]
    exact List.nil_subset _

namespace Declaration

theorem isWhole_comment {tokens : List Token}
    (whole : ∀ token ∈ tokens, token.text.IsWhole) :
    (comment tokens).IsWhole := by
  fun_induction comment tokens with
  | case1 word text rest found =>
      exact (whole text (by simp)).subset (Text.unquote_subset _)
  | case2 word text rest differ induction =>
      exact induction (List.forall_mem_cons.mp whole).2
  | case3 => exact .nil

theorem typeEnd_subset (type : Token) (rest : List Token) :
    (typeEnd type rest).2 ⊆ rest := by
  rcases typeEnd_cases type rest with alone
    | ⟨inner, last, later, rfl, -, found⟩
  · rw [alone]
    exact List.Subset.refl _
  · rw [found]
    exact List.subset_append_of_subset_right _ (List.subset_cons_self _ _)

theorem slice_subset (text : Text) (start stop : Nat) :
    slice text start stop ⊆ text :=
  List.Subset.trans (List.take_subset _ _) (List.drop_subset _ _)

/-- A column has all its characters from the statement, but for upper case. -/
theorem isWhole_of_column? {statement : Text} {declaration : List Token}
    {column : Column} (whole : statement.IsWhole)
    (tokens : declaration ⊆ Token.stream statement)
    (found : column? statement declaration = some column) :
    ∀ value ∈ Listing.fieldsOf column, (value.getD []).IsWhole := by
  obtain ⟨name, type, rest, plain, rfl, _, _, _, rfl⟩ :=
    column?_eq_some_iff.mp found
  intro value member
  simp only [Listing.fieldsOf, List.mem_cons, List.not_mem_nil, or_false]
    at member
  rcases member with rfl | rfl | rfl
  · exact Text.isWhole_of_isPlainName plain.plain
  · exact (whole.subset (slice_subset _ _ _)).upper
  · apply isWhole_comment
    intro token inside
    have listed : token ∈ name :: type :: rest := by
      simp [typeEnd_subset type rest inside]
    exact whole.subset (Token.text_subset (tokens listed))

end Declaration

/-- A script without halves describes a table without halves. -/
theorem Table.isWhole_of_parse [Splitter] {openings : List Opening}
    {script : Text} {table : Table} (whole : script.IsWhole)
    (parsed : Table.parse openings (some script) = .ok table) :
    table.IsWhole := by
  obtain ⟨text, located, closing, same, first, name, columns⟩ :=
    Table.exists_located_of_parse parsed
  obtain rfl := Option.some.inj same
  have statement : located.statement.IsWhole := by
    obtain ⟨before, after, statements, -⟩ := first
    refine whole.subset (Splitter.subset_of_mem ?_)
    rw [statements]
    simp
  refine ⟨?_, ?_⟩
  · rw [name]
    exact Text.isWhole_of_isPlainName located.header.name.plain
  · intro column member
    rw [columns] at member
    obtain ⟨declaration, declared, found⟩ := List.mem_filterMap.mp member
    exact Declaration.isWhole_of_column? statement
      (first.sublist_of_mem_declarations declared).subset
      (Located.column?_of_columnOf? found)

end SchemaSheet
