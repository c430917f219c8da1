import SchemaSheet.CommandLine.Run
import SchemaSheet.Proofs.Settings.Opening

/-!
# The settings of a run

Each setting of a run has the value that the command line gives it, or else the
one in the file of settings, or else its default.  Settings that cannot be
loaded are a failure of the settings, unless the file of settings is strange:
then the failure is one that the program does not know.
-/

namespace SchemaSheet

namespace Members

theorem get?_put (members : Members) (name other : Text) (value : Json) :
    (members.put name value).get? other
      = if other = name then some value else members.get? other := by
  split
  · next same =>
      rw [same]
      exact get?_put_self members name value
  · next different => exact get?_put_of_ne members value different

theorem get?_putNew (members : Members) (name other : Text) (value : Json) :
    (members.putNew name value).get? other
      = (members.get? other).or
        (if other = name then some value else none) := by
  unfold putNew
  by_cases same : other = name
  · subst same
    cases found : members.get? other with
    | some old => simp [found]
    | none => simp
  · rw [if_neg same, Option.or_none]
    split
    · rfl
    · rw [get?_put, if_neg same]

end Members

namespace Settings

open Members

theorem get?_fill (settings defaults : Settings) (name : Text) :
    get? (defaults.foldl (fun filled entry => putNew filled entry.1 entry.2)
        settings) name
      = (get? settings name).or (get? defaults name) := by
  induction defaults generalizing settings with
  | nil => exact (Option.or_none).symm
  | cons entry rest induction =>
      obtain ⟨key, value⟩ := entry
      rw [List.foldl_cons, induction, get?_putNew, Option.or_assoc]
      by_cases same : name = key
      · simp [get?, same]
      · simp [get?, List.lookup_cons, same, beq_eq_false_iff_ne.mpr same]

/-- Defaults count where the settings say nothing. -/
theorem get?_withDefaults (settings : Settings) (name : Text) :
    get? settings.withDefaults name
      = (get? settings name).or (get? defaults name) :=
  get?_fill settings defaults name

end Settings

namespace Options

/-- The value that the command line gives to a setting. -/
def flag? (options : Options) (name : Text) : Option Json :=
  if options.titles = true ∧ name = Settings.titlesKey then some (.bool true)
  else if options.noPreview = true ∧ name = Settings.previewKey then
    some (.bool false)
  else .none

/-- What the command line says counts more than what the settings say. -/
theorem get?_override (options : Options) (settings : Settings)
    (name : Text) :
    Members.get? (Settings.override settings options.changes) name
      = (options.flag? name).or (Members.get? settings name) := by
  have distinct : Settings.titlesKey ≠ Settings.previewKey := by decide
  unfold Settings.override changes flag?
  cases options.titles <;> cases options.noPreview <;>
    simp only [Json.isPresent, Bool.false_eq_true, if_true, if_false,
      List.foldl_cons, List.foldl_nil, false_and, true_and, Option.none_or,
      Members.get?_put]
  · split
    · rfl
    · rfl
  · split
    · rfl
    · rfl
  · by_cases titles : name = Settings.titlesKey
    · simp [titles, distinct]
    · simp only [titles, if_false]
      split
      · rfl
      · rfl

/-- The members of the file of settings, if the command line names one.  They
are settings that the program knows. -/
def Configures (options : Options) (world : World) (members : Settings) :
    Prop :=
  match given options.settings with
  | .none => members = []
  | some path => ∃ octets text,
      world.desk.read (Path.ofText path) = .ok octets
        ∧ readOctets octets = .ok text
        ∧ Json.read world.limits text = .ok (.object members)
        ∧ ∀ name ∈ members.names, name ∈ Settings.defaults.names

/-- Each setting has the value that the command line gives it, else the one in
the file of settings, else its default. -/
def Resolves (options : Options) (world : World) (settings : Settings) :
    Prop :=
  ∃ members, options.Configures world members
    ∧ ∀ name, settings.get? name
      = ((options.flag? name).or (members.get? name)).or
        (Settings.defaults.get? name)

end Options

namespace Settings

variable {limits : JsonLimits} {disk : Disk} {path : Text}
  {settings : Settings}

theorem sortNames_eq_nil {names : List Text} (empty : sortNames names = []) :
    names = [] :=
  List.Perm.eq_nil (empty ▸ (List.mergeSort_perm names _).symm)

theorem ofFile_eq_ok (loaded : ofFile limits disk path = .ok settings) :
    ∃ octets text, disk.read (Path.ofText path) = .ok octets
      ∧ readOctets octets = .ok text
      ∧ Json.read limits text = .ok (.object settings)
      ∧ ∀ name ∈ Members.names settings,
        name ∈ Members.names defaults := by
  unfold ofFile at loaded
  split at loaded
  · exact nomatch loaded
  · next octets read =>
      split at loaded
      · exact nomatch loaded
      · next text decoded =>
          split at loaded
          · exact nomatch loaded
          · next members written =>
              simp only at loaded
              split at loaded
              · next known =>
                  obtain rfl := Except.ok.inj loaded
                  have unknown := List.filter_eq_nil_iff.mp
                    (sortNames_eq_nil known)
                  refine ⟨octets, text, read, decoded, written, ?_⟩
                  intro name member
                  simpa using unknown name member
              · exact nomatch loaded
          · exact nomatch loaded

end Settings

namespace Options

variable {options : Options} {world : World} {settings : Settings}

theorem given_ne_nil {value : Option Text} {text : Text}
    (found : given value = some text) : text.isEmpty = false := by
  unfold given at found
  split at found
  · exact nomatch found
  · exact nomatch found
  · next other empty =>
      obtain rfl := Option.some.inj found
      exact List.isEmpty_eq_false_iff.mpr (fun same => empty (same ▸ rfl))

/-- What the file of settings gives, if the command line names one. -/
def written (options : Options) (world : World) :
    Except SettingsFault Settings :=
  match given options.settings with
  | .none => .ok []
  | some path => Settings.ofFile world.limits world.desk.toDisk path

theorem load_eq (options : Options) (world : World) :
    options.load world
      = (options.written world).map fun members =>
        (Settings.override members options.changes).withDefaults := by
  unfold load Settings.load written
  cases found : given options.settings with
  | none => rfl
  | some path => simp only [given_ne_nil found, Bool.false_eq_true, if_false]

theorem resolves_of_load (loaded : options.load world = .ok settings) :
    options.Resolves world settings := by
  rw [load_eq] at loaded
  cases found : options.written world with
  | error fault => exact nomatch found ▸ loaded
  | ok members =>
      rw [found] at loaded
      obtain rfl := Except.ok.inj loaded
      refine ⟨members, ?_, ?_⟩
      · unfold written at found
        unfold Configures
        split at found
        · exact (Except.ok.inj found).symm
        · exact Settings.ofFile_eq_ok found
      · intro name
        rw [Settings.get?_withDefaults, get?_override]

end Options

/-- The program does not know the failure. -/
def Fault.IsForeign (fault : Fault) : Prop :=
  ∃ kind message, fault = .foreign kind message

namespace Settings

variable {limits : JsonLimits} {disk : Disk} {path : Text}
  {settings : Settings} {fault : SettingsFault}

/-- The file of settings fails in a way that is no failure of the settings
alone. -/
inductive Strange (limits : JsonLimits) (disk : Disk) (path : Text) :
    Prop where
  /-- The file cannot be read, and not because the system refuses. -/
  | call {reason : CallFault}
      (unread : disk.read (Path.ofText path) = .error reason)
      (unrefused : reason.refused = false)
  /-- The file holds no text. -/
  | octets {octets : List UInt8} {reason : Utf8Fault}
      (read : disk.read (Path.ofText path) = .ok octets)
      (undecodable : readOctets octets = .error reason)
  /-- A number in the file is too long, or a value stands too deep. -/
  | limit {octets : List UInt8} {text : Text} {reason : JsonFault}
      (read : disk.read (Path.ofText path) = .ok octets)
      (decoded : readOctets octets = .ok text)
      (refused : Json.read limits text = .error reason)
      (valid : ∀ problem left, reason ≠ .invalid problem left)

theorem strange_of_foreign (failed : ofFile limits disk path = .error fault)
    (foreign : fault.fault.IsForeign) : Strange limits disk path := by
  obtain ⟨kind, message, foreign⟩ := foreign
  unfold ofFile at failed
  split at failed
  · next reason unread =>
      obtain rfl := Except.error.inj failed
      cases refused : reason.refused with
      | false => exact .call unread refused
      | true =>
          simp only [SettingsFault.fault, CallFault.fault, refused, if_true]
            at foreign
          cases foreign
  · next octets read =>
      split at failed
      · next reason undecodable => exact .octets read undecodable
      · next text decoded =>
          split at failed
          · next reason refused =>
              obtain rfl := Except.error.inj failed
              refine .limit read decoded refused ?_
              rintro problem left rfl
              cases foreign
          · next members written =>
              simp only at failed
              split at failed
              · cases failed
              · obtain rfl := Except.error.inj failed
                cases foreign
          · obtain rfl := Except.error.inj failed
            cases foreign

theorem Strange.foreign (strange : Strange limits disk path) :
    ∃ fault, ofFile limits disk path = .error fault
      ∧ fault.fault.IsForeign := by
  cases strange with
  | call unread unrefused =>
      refine ⟨_, by simp only [ofFile, unread]; rfl, ?_⟩
      simp only [SettingsFault.fault, CallFault.fault, unrefused,
        Bool.false_eq_true, if_false]
      exact ⟨_, _, rfl⟩
  | octets read undecodable =>
      exact ⟨_, by simp only [ofFile, read, undecodable]; rfl, _, _, rfl⟩
  | limit read decoded refused valid =>
      rename_i octets text reason
      refine ⟨_, by simp only [ofFile, read, decoded, refused]; rfl, ?_⟩
      cases reason with
      | invalid problem left => exact absurd rfl (valid problem left)
      | longInteger limit digits => exact ⟨_, _, rfl⟩
      | deepArray => exact ⟨_, _, rfl⟩
      | deepObject => exact ⟨_, _, rfl⟩

theorem known_of_openingOf {item : Json}
    (failed : openingOf item = .error fault) : ¬fault.fault.IsForeign := by
  rintro ⟨kind, message, foreign⟩
  rcases openingOf_cases item with ⟨text, -, -, told⟩ | ⟨-, told⟩
  · rw [told] at failed
    cases failed
  · rw [told] at failed
    cases failed
    cases foreign

theorem known_of_addOpenings {found : List Opening} {items : List Json}
    (failed : addOpenings found items = .error fault) :
    ¬fault.fault.IsForeign := by
  obtain ⟨item, -, refused⟩ := exists_of_addOpenings failed
  exact known_of_openingOf refused

/-- Openings that cannot be used are a failure of the settings. -/
theorem known_of_openings (failed : openings settings = .error fault) :
    ¬fault.fault.IsForeign := by
  unfold openings at failed
  simp only at failed
  split at failed
  · split at failed
    · exact known_of_addOpenings failed
    · obtain rfl := Except.error.inj failed
      rintro ⟨kind, message, foreign⟩
      exact nomatch foreign
  · exact nomatch failed

end Settings

namespace Options

theorem load_eq_error_iff {options : Options} {world : World}
    {fault : SettingsFault} :
    options.load world = .error fault
      ↔ ∃ path, given options.settings = some path
        ∧ Settings.ofFile world.limits world.desk.toDisk path
          = .error fault := by
  rw [load_eq]
  unfold written
  cases given options.settings with
  | none => simp [Except.map]
  | some path =>
      simp only [Option.some.injEq, exists_eq_left']
      cases Settings.ofFile world.limits world.desk.toDisk path with
      | error fault => rfl
      | ok members => simp [Except.map]

/-- Loading fails in a way that the program does not know just where the command
line names a strange file of settings. -/
theorem foreign_load_iff (options : Options) (world : World) :
    (∃ fault, options.load world = .error fault ∧ fault.fault.IsForeign)
      ↔ ∃ path, given options.settings = some path
        ∧ Settings.Strange world.limits world.desk.toDisk path := by
  constructor
  · rintro ⟨fault, failed, foreign⟩
    obtain ⟨path, named, failed⟩ := load_eq_error_iff.mp failed
    exact ⟨path, named, Settings.strange_of_foreign failed foreign⟩
  · rintro ⟨path, named, strange⟩
    obtain ⟨fault, failed, foreign⟩ := strange.foreign
    exact ⟨fault, load_eq_error_iff.mpr ⟨path, named, failed⟩, foreign⟩

end Options

end SchemaSheet
