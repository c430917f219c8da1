import SchemaSheet.Files.Disk

/-!
# Writing files

What is written to a file is read from it afterwards.  The path still leads to
the same place, since the places on the way are directories and so are not the
one that is written.  A disk leaves its files alone where a path cannot be
opened; else the file holds the octets that have reached it, all or not.
-/

namespace SchemaSheet

namespace FileTree

variable {tree written : FileTree} {location other : Location} {node : Node}

theorem lookup_put (tree : FileTree) (location other : Location)
    (node : Node) :
    (put tree location node).lookup other
      = if other = location then some node else tree.lookup other := by
  induction tree with
  | nil =>
      rw [put, List.lookup_cons, List.lookup_nil]
      by_cases same : other = location
      · simp [same]
      · simp [same, beq_eq_false_iff_ne.mpr same]
  | cons entry rest induction =>
      obtain ⟨place, old⟩ := entry
      rw [put]
      by_cases found : place = location
      · subst found
        simp only [if_true, List.lookup_cons]
        by_cases same : other = place
        · simp [same]
        · simp [same, beq_eq_false_iff_ne.mpr same]
      · simp only [found, if_false, List.lookup_cons, induction]
        by_cases same : other = place
        · subst same
          simp [found]
        · simp [beq_eq_false_iff_ne.mpr same]

theorem node?_put_self (writable : tree.node? location ≠ some .directory) :
    (tree.put location node).node? location = some node := by
  unfold node? at writable ⊢
  split at writable
  · exact absurd rfl writable
  · next inside =>
      simp only [inside, Bool.false_eq_true, if_false, lookup_put, if_true]

theorem node?_put_of_ne (different : other ≠ location) :
    (tree.put location node).node? other = tree.node? other := by
  unfold node?
  rw [lookup_put]
  simp only [different, if_false]

/-- Names lead to the same place after something has been put where there is
no directory. -/
theorem follow_put {names : List Text} {start place : Location}
    (writable : tree.node? location ≠ some .directory)
    (followed : tree.follow start names = .ok place) :
    (tree.put location node).follow start names = .ok place := by
  induction names generalizing start with
  | nil => exact followed
  | cons name rest induction =>
      simp only [follow] at followed ⊢
      split at followed
      · exact nomatch followed
      · next short =>
          split at followed
          · next last => simpa only [short, last, if_false, if_true]
          · next more =>
              cases met : tree.node? (enter start name) with
              | none => exact nomatch met ▸ followed
              | some found =>
                  cases found with
                  | file octets => exact nomatch met ▸ followed
                  | directory =>
                      have different : enter start name ≠ location := by
                        intro same
                        exact writable (same ▸ met)
                      rw [met] at followed
                      simp only [short, more, if_false,
                        node?_put_of_ne different, met]
                      exact induction followed

theorem locate_put {path : Path} {place : Location}
    (writable : tree.node? location ≠ some .directory)
    (located : tree.locate path = .ok place) :
    (tree.put location node).locate path = .ok place := by
  unfold locate at located ⊢
  split at located
  · exact nomatch located
  · split at located
    · exact nomatch located
    · next proper =>
        split at located
        · exact nomatch located
        · next short =>
            simp only [proper, short, Bool.false_eq_true, if_false]
            exact follow_put writable located

/-- What is written stands at the place that the path leads to, which is no
directory. -/
theorem exists_of_write {path : Path} {octets : List UInt8}
    (wrote : tree.write path octets = .ok written) :
    ∃ place, tree.locate path = .ok place
      ∧ tree.node? place ≠ some .directory
      ∧ written = tree.put place (.file octets) := by
  unfold write at wrote
  split at wrote
  · exact nomatch wrote
  · next place located =>
      split at wrote
      · exact nomatch wrote
      · next writable =>
          exact ⟨place, located, writable, (Except.ok.inj wrote).symm⟩

/-- The path leads to a place for a file. -/
def Writable (tree : FileTree) (path : Path) : Prop :=
  ∃ place, tree.locate path = .ok place ∧ tree.node? place ≠ some .directory

theorem writable_of_write {path : Path} {octets : List UInt8}
    (wrote : tree.write path octets = .ok written) : tree.Writable path := by
  obtain ⟨place, located, writable, -⟩ := exists_of_write wrote
  exact ⟨place, located, writable⟩

theorem exists_write {path : Path} (writable : tree.Writable path)
    (octets : List UInt8) :
    ∃ written, tree.write path octets = .ok written := by
  obtain ⟨place, located, free⟩ := writable
  exact ⟨tree.put place (.file octets), by simp only [write, located]⟩

theorem read_of_write {path : Path} {octets : List UInt8}
    (wrote : tree.write path octets = .ok written) :
    written.read path = .ok octets := by
  obtain ⟨place, located, writable, rfl⟩ := exists_of_write wrote
  rw [read, locate_put writable located]
  simp only [node?_put_self writable]

/-- The tree afterwards holds the octets at the path, and nothing else has
changed. -/
structure Rewrites (tree : FileTree) (path : Path) (octets : List UInt8)
    (later : FileTree) : Prop where
  read : later.read path = .ok octets
  elsewhere : ∃ place, tree.locate path = .ok place
    ∧ ∀ other, other ≠ place → later.node? other = tree.node? other

theorem rewrites_of_write {path : Path} {octets : List UInt8}
    (wrote : tree.write path octets = .ok written) :
    tree.Rewrites path octets written := by
  refine ⟨read_of_write wrote, ?_⟩
  obtain ⟨place, located, _, rfl⟩ := exists_of_write wrote
  exact ⟨place, located, fun other different => node?_put_of_ne different⟩

end FileTree

namespace FileCalls

variable {calls : FileCalls} {path : Path} {text : Text}

theorem encode_of_fill (whole : (calls.fill path text).2 = none) :
    Utf8.encode .strict text = .ok (calls.fill path text).1 := by
  unfold fill at whole ⊢
  split at whole
  · unfold put at whole ⊢
    split at whole
    · cases whole
    · next octets encoded =>
        split at whole
        · exact encoded
        · cases whole
  · cases whole

/-- A text that has octets reaches a file, unless the calls that write the file
or close it fail. -/
theorem fill_of_encode {octets : List UInt8}
    (encoded : Utf8.encode .strict text = .ok octets)
    (written : calls.writing path = none)
    (closed : calls.closing path = none) :
    calls.fill path text = (octets, none) := by
  simp only [fill, put, encoded, written, closed]

end FileCalls

namespace Disk

variable {disk : Disk} {path : Path} {text : Text} {octets : List UInt8}

/-- The file at the path can be opened for writing. -/
structure Opens (disk : Disk) (path : Path) : Prop where
  writable : disk.files.Writable path
  opened : disk.calls.opening path = none

/-- The file at the path is opened for a text, which fails to reach it: the file
is left with the octets. -/
def Damages (disk : Disk) (path : Path) (text : Text) (octets : List UInt8) :
    Prop :=
  disk.Opens path
    ∧ ∃ reason, disk.calls.fill path text = (octets, some reason)

theorem write_of_opens (opens : disk.Opens path) (text : Text) :
    (disk.write path text).2 = (disk.calls.fill path text).2
      ∧ disk.files.Rewrites path (disk.calls.fill path text).1
        (disk.write path text).1 := by
  obtain ⟨written, wrote⟩ :=
    FileTree.exists_write opens.writable (disk.calls.fill path text).1
  have same : disk.write path text
      = (written, (disk.calls.fill path text).2) := by
    simp only [write, wrote, opens.opened]
  rw [same]
  exact ⟨rfl, FileTree.rewrites_of_write wrote⟩

theorem write_of_not_opens (closed : ¬disk.Opens path) (text : Text) :
    ∃ reason, disk.write path text = (disk.files, some reason) := by
  cases wrote : disk.files.write path (disk.calls.fill path text).1 with
  | error reason => exact ⟨reason.callFault path, by simp only [write, wrote]⟩
  | ok written =>
      cases opened : disk.calls.opening path with
      | some reason => exact ⟨reason, by simp only [write, wrote, opened]⟩
      | none =>
          exact absurd ⟨FileTree.writable_of_write wrote, opened⟩ closed

theorem write_of_taken (taken : (disk.write path text).2 = none) :
    ∃ octets, Utf8.encode .strict text = .ok octets
      ∧ disk.files.Rewrites path octets (disk.write path text).1 := by
  by_cases opens : disk.Opens path
  · obtain ⟨same, rewrites⟩ := write_of_opens opens text
    exact ⟨_, FileCalls.encode_of_fill (same.symm.trans taken), rewrites⟩
  · obtain ⟨reason, same⟩ := write_of_not_opens opens text
    rw [same] at taken
    cases taken

/-- A disk that does not take a text leaves its files alone, unless it damages
one. -/
theorem write_of_rejected (rejected : (disk.write path text).2 ≠ none)
    (sound : ∀ octets, ¬disk.Damages path text octets) :
    (disk.write path text).1 = disk.files := by
  by_cases opens : disk.Opens path
  · obtain ⟨same, -⟩ := write_of_opens opens text
    rw [same] at rejected
    obtain ⟨reason, stopped⟩ := Option.ne_none_iff_exists'.mp rejected
    exact absurd ⟨opens, reason, Prod.ext rfl stopped⟩ (sound _)
  · obtain ⟨_, same⟩ := write_of_not_opens opens text
    rw [same]

theorem Damages.write (damages : disk.Damages path text octets) :
    (disk.write path text).2 ≠ none
      ∧ disk.files.Rewrites path octets (disk.write path text).1 := by
  obtain ⟨opens, reason, filled⟩ := damages
  obtain ⟨same, rewrites⟩ := write_of_opens opens text
  rw [filled] at same rewrites
  exact ⟨Option.ne_none_iff_exists'.mpr ⟨reason, same⟩, rewrites⟩

end Disk

end SchemaSheet
