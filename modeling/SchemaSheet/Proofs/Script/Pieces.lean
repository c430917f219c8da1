import SchemaSheet.Script.Statement

/-!
# Pieces of a script

The statements of a script are pieces of it without the blanks around them.
The pieces make up the script, but for blanks at its end: parts that count as
spaces or line breaks consist of blanks.
-/

namespace SchemaSheet

namespace Script

/-- The pieces that a script is cut into. -/
def pieces (script : Text) : List Text :=
  (cut .start [] (parts script)).map fun piece => piece.flatMap Part.text

theorem statements_eq (script : Text) :
    Splitter.statements script = (pieces script).map Text.trim := by
  rw [pieces, List.map_map]
  rfl

/-- The role of a part that is blank. -/
def IsSpacing (role : Role) : Prop := role = .space ∨ role = .lineBreak

instance (role : Role) : Decidable (IsSpacing role) :=
  inferInstanceAs (Decidable (_ ∨ _))

open Pattern

/-- The patterns of parts that are blank. -/
def lineBreakPattern : Pattern :=
  choice [literally "\r\n", exactly '\r', exactly '\n']

theorem not_isSpacing_wordRole (text : Text) : ¬IsSpacing (wordRole text) := by
  simp only [wordRole, IsSpacing]
  split
  · decide
  · split <;> decide

/-- The rule gives no part that counts as a space or a line break, or what it
matches is blank. -/
def Spaces (rule : Rule) : Prop :=
  rule.pattern = lineBreakPattern ∨ rule.pattern = one isBlank
    ∨ ∀ text, ¬IsSpacing (rule.role text)

theorem spaces_lineBreak :
    Spaces ⟨fun _ => .lineBreak,
      choice [literally "\r\n", exactly '\r', exactly '\n']⟩ :=
  .inl rfl

theorem spaces_space : Spaces ⟨fun _ => .space, one isBlank⟩ :=
  .inr (.inl rfl)

theorem spaces_word (pattern : Pattern) : Spaces ⟨wordRole, pattern⟩ := by
  right
  right
  exact not_isSpacing_wordRole

theorem spaces_of_role {role : Role} (pattern : Pattern)
    (proper : ¬IsSpacing role) : Spaces ⟨fun _ => role, pattern⟩ := by
  right
  right
  intro text
  exact proper

theorem spaces_of_mem_rules : ∀ rule ∈ rules, Spaces rule := by
  have other : ¬IsSpacing .other := by decide
  have keyword : ¬IsSpacing .keyword := by decide
  have creation : ¬IsSpacing .creation := by decide
  have comment : ¬IsSpacing .lineComment := by decide
  have punctuation : ¬IsSpacing .punctuation := by decide
  simp only [rules, List.forall_mem_append, List.forall_mem_cons,
    List.forall_mem_map, List.not_mem_nil, false_implies, implies_true,
    spaces_lineBreak, spaces_space, spaces_word, spaces_of_role, other,
    keyword, creation, comment, punctuation, not_false_eq_true, and_true]

theorem length?_blank {cursor : Cursor} {length : Nat} {char : Character}
    {rest : Text} (ahead : cursor.ahead = char :: rest)
    (matched : (one isBlank).length? cursor = some length) :
    length = 1 ∧ isBlank char = true := by
  simp only [Pattern.length?, Pattern.ends, ahead] at matched
  split at matched
  · simp at matched
    exact ⟨by omega, ‹_›⟩
  · cases matched

theorem length?_lineBreak {cursor : Cursor} {length : Nat} {char : Character}
    {rest : Text} (ahead : cursor.ahead = char :: rest)
    (matched : lineBreakPattern.length? cursor = some length) :
    ∀ other ∈ char :: rest.take (length - 1), isBlank other = true := by
  have shape : lineBreakPattern = either
      (both (exactly '\r') (exactly '\n'))
      (either (exactly '\r') (exactly '\n')) := rfl
  have feedBlank : isBlank '\n' = true := by decide
  have returnBlank : isBlank '\r' = true := by decide
  simp only [shape, exactly, Pattern.length?, Pattern.ends, ahead] at matched
  by_cases feed : char = .of '\n'
  · subst feed
    have single : 1 = length := by simpa using matched
    simp [← single, feedBlank]
  · by_cases carriage : char = .of '\r'
    · subst carriage
      cases rest with
      | nil => simp [returnBlank]
      | cons next rest =>
          by_cases nextFeed : next = .of '\n'
          · subst nextFeed
            have passed : cursor.passed + 1 + 1 - cursor.passed = length := by
              simpa using matched
            have double : length = 2 := by omega
            simp [double, returnBlank, feedBlank]
          · have single : 1 = length := by simpa [nextFeed] using matched
            simp [← single, returnBlank]
    · simp [feed, carriage] at matched

theorem not_isSpacing_of_delimited? {cursor : Cursor} {role : Role}
    {length : Nat} (found : delimited? cursor = some (role, length)) :
    ¬IsSpacing role := by
  unfold delimited? at found
  split at found
  · obtain ⟨inner, -, same⟩ := Option.map_eq_some_iff.mp found
    cases same
    decide
  · obtain ⟨inner, -, same⟩ := Option.map_eq_some_iff.mp found
    cases same
    decide
  · split at found
    · obtain ⟨inner, -, same⟩ := Option.map_eq_some_iff.mp found
      cases same
      decide
    · cases found

theorem blank_of_first {before : Option Character} {char : Character}
    {rest : Text} {role : Role} {length : Nat}
    (found : first ⟨0, before, char :: rest⟩ = (role, length))
    (spacing : IsSpacing role) :
    ∀ other ∈ char :: rest.take (length - 1), isBlank other = true := by
  unfold first at found
  split at found
  case _ delimited same =>
    rw [found] at same
    exact absurd spacing (not_isSpacing_of_delimited? same)
  case _ =>
    simp only [Option.getD_eq_iff] at found
    rcases found with matched | ⟨-, same⟩
    · obtain ⟨rule, member, applied⟩ :=
        List.exists_of_findSome?_eq_some matched
      obtain ⟨taken, taking, same⟩ := Option.map_eq_some_iff.mp applied
      cases same
      rcases spaces_of_mem_rules rule member with
        lineBreak | blank | otherwise
      · rw [lineBreak] at taking
        exact length?_lineBreak rfl taking
      · rw [blank] at taking
        obtain ⟨rfl, isBlankChar⟩ := length?_blank rfl taking
        simp [isBlankChar]
      · exact absurd spacing (otherwise _)
    · cases same
      exact absurd spacing (by decide)

theorem blank_of_mem_partsFrom {before : Option Character} {ahead : Text}
    {part : Part} (member : part ∈ partsFrom before ahead)
    (spacing : IsSpacing part.role) :
    ∀ char ∈ part.text, isBlank char = true := by
  induction before, ahead using partsFrom.induct with
  | case1 => simp [partsFrom] at member
  | case2 before char rest role length found text induction =>
      rw [partsFrom] at member
      simp only [found, List.mem_cons] at member
      rcases member with here | later
      · rw [here] at spacing ⊢
        exact blank_of_first found spacing
      · exact induction later

/-- The pieces make up the script, but for blanks at its end. -/
theorem exists_flatten_pieces (script : Text) :
    ∃ tail : Text, (∀ char ∈ tail, isBlank char = true)
      ∧ script = (pieces script).flatten ++ tail := by
  obtain ⟨blank, idle, whole⟩ := flatten_cut .start [] (parts script)
  rw [List.reverse_nil, List.nil_append] at whole
  refine ⟨blank.flatMap Part.text, ?_, ?_⟩
  · intro char member
    obtain ⟨part, partMember, inside⟩ := List.mem_flatMap.mp member
    have isSpacing := List.all_eq_true.mp idle part partMember
    have spacing : IsSpacing part.role := by
      simpa [Part.isSpacing, IsSpacing] using isSpacing
    have present : part ∈ parts script := by
      rw [← whole]
      exact List.mem_append_right _ partMember
    exact blank_of_mem_partsFrom present spacing char inside
  · calc
      script = (parts script).flatMap Part.text := (flatMap_parts script).symm
      _ = (pieces script).flatten ++ blank.flatMap Part.text := by
        rw [← whole, List.flatMap_append, List.flatten_eq_flatMap,
          List.flatMap_assoc, List.flatMap_def]
        rfl

end Script

end SchemaSheet
