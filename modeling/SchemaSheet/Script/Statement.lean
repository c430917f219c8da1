import SchemaSheet.Script.Nesting
import SchemaSheet.Script.Splitter

/-!
# Statements of a script

A script is divided into statements behind the semicolons that stand outside
parentheses and blocks, and behind batch separators.  Blanks and line comments
on the same line stay with the statement that they follow.
`flatten_cut` says that the pieces make up the script, but for blanks at its
end; so `splitter` is a splitter.
-/

namespace SchemaSheet

namespace Script

/-- How far a statement has come. -/
structure Progress where
  nesting : Nesting
  ended : Bool
  deriving DecidableEq, Repr

namespace Part

/-- The part may follow the end of a statement and still belong to it. -/
def isTrailing (part : Part) : Bool :=
  part.role == .space || part.role == .lineComment

def isSpacing (part : Part) : Bool :=
  part.role == .space || part.role == .lineBreak

/-- The part does not count: it is blank or a comment. -/
def isIdle (part : Part) : Bool :=
  part.isSpacing || part.role == .lineComment || part.role == .blockComment

def isSemicolon (part : Part) : Bool :=
  part.role == .punctuation && part.text == ";"

def isBatchEnd (part : Part) : Bool :=
  part.role == .keyword
    && (Text.words part.text).head? == some (Text.ofString "GO")

def isBegin (part : Part) : Bool :=
  part.role == .keyword && Text.upper part.text == "BEGIN"

end Part

namespace Progress

/-- At the beginning of a statement. -/
def start : Progress := ⟨.none, false⟩

/-- After a part of the statement. -/
def after (progress : Progress) (part : Part) : Progress :=
  let nesting := progress.nesting.after part
  if part.isSemicolon then
    { nesting := { nesting with afterBegin := false }
      ended := progress.ended
        || (nesting.depth ≤ 0 && !nesting.blocks.contains .body) }
  else if part.isBatchEnd then { nesting, ended := true }
  else if part.isIdle || part.isBegin then { nesting, ended := progress.ended }
  else
    { nesting := { nesting with afterBegin := false }
      ended := progress.ended }

end Progress

/-- The statements of a list of parts, as lists of parts.  `current` is the
beginning of the first one, last part first. -/
def cut (progress : Progress) (current : List Part) :
    List Part → List (List Part)
  | [] => if current.all Part.isSpacing then [] else [current.reverse]
  | part :: rest =>
      if progress.ended && !part.isTrailing then
        current.reverse :: cut (Progress.start.after part) [part] rest
      else cut (progress.after part) (part :: current) rest

/-- The statements of a script, in order, without blanks around them. -/
def statements (script : Text) : List Text :=
  (cut .start [] (parts script)).map fun statement =>
    Text.trim (statement.flatMap Part.text)

/-- The pieces of a list of parts make up the list, but for blank parts at its
end. -/
theorem flatten_cut (progress : Progress) (current rest : List Part) :
    ∃ blank : List Part, blank.all Part.isSpacing = true ∧
      (cut progress current rest).flatten ++ blank
        = current.reverse ++ rest := by
  induction rest generalizing progress current with
  | nil =>
      by_cases idle : current.all Part.isSpacing = true
      · exact ⟨current.reverse, by simpa using idle, by simp [cut, idle]⟩
      · exact ⟨[], rfl, by simp [cut, idle]⟩
  | cons part rest induction =>
      rw [cut]
      split
      · obtain ⟨blank, idle, whole⟩ :=
          induction (Progress.start.after part) [part]
        refine ⟨blank, idle, ?_⟩
        simpa using whole
      · obtain ⟨blank, idle, whole⟩ :=
          induction (progress.after part) (part :: current)
        exact ⟨blank, idle, by simpa using whole⟩

theorem trim_subset (text : Text) : text.trim ⊆ text := by
  intro char inside
  have back := List.mem_reverse.mp inside
  have start := List.mem_reverse.mp ((List.dropWhile_sublist _).subset back)
  exact (List.dropWhile_sublist _).subset start

theorem subset_of_mem_statements {script statement : Text}
    (member : statement ∈ statements script) : statement ⊆ script := by
  obtain ⟨piece, listed, rfl⟩ := List.mem_map.mp member
  obtain ⟨blank, -, whole⟩ := flatten_cut .start [] (parts script)
  intro char charMember
  obtain ⟨part, partMember, inside⟩ :=
    List.mem_flatMap.mp (trim_subset _ charMember)
  have partOfScript : part ∈ parts script := by
    have joined : part ∈ (cut .start [] (parts script)).flatten ++ blank :=
      List.mem_append_left _
        (List.mem_flatten.mpr ⟨piece, listed, partMember⟩)
    rw [whole] at joined
    simpa using joined
  rw [← flatMap_parts script]
  exact List.mem_flatMap.mpr ⟨part, partOfScript, inside⟩

instance splitter : Splitter := ⟨statements, subset_of_mem_statements⟩

end Script

end SchemaSheet
