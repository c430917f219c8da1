import SchemaSheet.Proofs.CommandLine.Loading
import SchemaSheet.Proofs.Table.Outcome
import SchemaSheet.Proofs.Transfer.Recall
import SchemaSheet.Proofs.Transfer.Screen

/-!
# The course of a run

A run loads its settings, starts a session with them, and makes one
transformation.  `Course` lists how this can go; `course_run` says that there is
no other way.
-/

namespace SchemaSheet

theorem exceptMap_some_eq_ok_iff {ε α : Type} {found : Except ε α}
    {value : Option α} :
    found.map some = .ok value ↔ ∃ present, value = some present
      ∧ found = .ok present := by
  cases found with
  | error fault => simp [Except.map]
  | ok present => simp [Except.map, eq_comm]

/-- No call that reads the clipboard fails. -/
def Clipboard.IsReadable (clipboard : Clipboard) : Prop :=
  clipboard.calls.opening = none ∧ clipboard.calls.reading = none
    ∧ clipboard.calls.closing = none

namespace Source

variable {text : Text}

theorem fetchClipboard_eq_ok_iff {found : Clipboard} :
    fetchClipboard found = .ok text
      ↔ found.IsReadable ∧ found.content = text := by
  unfold fetchClipboard Clipboard.IsReadable
  cases found.calls.opening with
  | some reason => simp
  | none =>
      cases found.calls.closing with
      | some reason => simp
      | none =>
          cases found.calls.reading with
          | some reason => simp
          | none => simp

theorem fetchFile_eq_ok_iff {disk : Disk} {path : Path} :
    fetchFile disk path = .ok text
      ↔ ∃ octets, disk.read path = .ok octets
        ∧ readOctets octets = .ok text := by
  unfold fetchFile
  split
  · next unread => simp [unread]
  · next octets read =>
      split
      · next undecodable => simp [read, undecodable]
      · next decoded => simp [read, decoded]

end Source

namespace Options

/-- The text that the source of a run gives: what is on the clipboard, what the
input file holds, or the standard input. -/
def Gives (options : Options) (world : World) (text : Text) : Prop :=
  if options.fromClipboard then
    world.desk.clipboard.IsReadable ∧ world.desk.clipboard.content = text
  else
    match given options.input with
    | some path => ∃ octets, world.desk.read (Path.ofText path) = .ok octets
        ∧ readOctets octets = .ok text
    | .none => world.inputFault = .none ∧ readOctets world.input = .ok text

/-- What the source of a run gives, or why it gives nothing. -/
def fetched (options : Options) (world : World) :
    Except Fault (Option Text) :=
  ((options.source world).fetch world.desk).1

/-- The source of a run gives a text, or it fails. -/
theorem fetched_eq_ok_iff {options : Options} {world : World}
    {found : Option Text} :
    options.fetched world = .ok found
      ↔ ∃ text, found = some text ∧ options.Gives world text := by
  unfold fetched source Gives
  split
  · simp only [Source.fetch, exceptMap_some_eq_ok_iff,
      Source.fetchClipboard_eq_ok_iff]
  · cases given options.input with
    | some path =>
        simp only [Source.fetch, exceptMap_some_eq_ok_iff,
          Source.fetchFile_eq_ok_iff]
    | none =>
        simp only [Source.fetch]
        cases world.inputFault with
        | some reason => simp
        | none =>
            cases readOctets world.input with
            | error reason => simp
            | ok text => simp [eq_comm]

theorem Gives.unique {options : Options} {world : World} {text other : Text}
    (gives : options.Gives world text) (others : options.Gives world other) :
    text = other := by
  have fetched := fetched_eq_ok_iff.mpr ⟨text, rfl, gives⟩
  rw [fetched_eq_ok_iff.mpr ⟨other, rfl, others⟩] at fetched
  exact (Option.some.inj (Except.ok.inj fetched)).symm

end Options

/-- The listing is what the settings make of the text. -/
def Settings.Lists [Splitter] (settings : Settings) (text listing : Text) :
    Prop :=
  ∃ openings table, Settings.openings settings = .ok openings
    ∧ Table.parse openings (some text) = .ok table
    ∧ listing = table.listing (Settings.style settings)

namespace CommandLine

variable {options : Options} {settings : Settings} {world : World}
  {start : Session}

/-- The session of a run before its transformation. -/
structure Begins (options : Options) (settings : Settings) (world : World)
    (start : Session) : Prop where
  loaded : options.load world = .ok settings
  openings : Settings.openings settings = .ok start.openings
  style : start.style = Settings.style settings
  source : start.source = options.source world
  sink : start.sink = options.sink world
  desk : start.desk = world.desk
  clear : start.presenter.screen = []
  quiet : start.quiet = start

theorem begins_of_session (loaded : options.load world = .ok settings)
    (started : session options settings world = .ok start) :
    Begins options settings world start := by
  obtain ⟨openings, same⟩ := Session.eq_of_start started
  rw [same]
  exact
    { loaded
      openings
      style := rfl
      source := rfl
      sink := rfl
      desk := rfl
      clear := rfl
      quiet := rfl }

namespace Begins

theorem fetched (begins : Begins options settings world start) :
    start.fetched = options.fetched world := by
  unfold Session.fetched Options.fetched
  rw [begins.source, begins.desk]

theorem delivery (begins : Begins options settings world start)
    (offer : Offer) :
    start.delivery offer
      = (options.sink world).deliver world.desk offer.listing := by
  unfold Session.delivery
  rw [begins.sink, begins.desk]

variable [Splitter]

theorem lists (begins : Begins options settings world start) {offer : Offer}
    (offered : start.offer .transform = .ok offer) :
    ∃ text, options.Gives world text
      ∧ settings.Lists text offer.listing := by
  obtain ⟨text, table, fetched, parsed, rfl⟩ :=
    Session.offer_transform_eq_ok offered
  rw [begins.fetched, Options.fetched_eq_ok_iff] at fetched
  obtain ⟨given, same, gives⟩ := fetched
  obtain rfl := Option.some.inj same
  refine ⟨text, gives, _, table, begins.openings, parsed, ?_⟩
  rw [begins.style]

/-- The session offers what the settings make of the text that is given. -/
theorem offers (begins : Begins options settings world start)
    {text listing : Text} (gives : options.Gives world text)
    (lists : settings.Lists text listing) :
    ∃ table, start.offer .transform = .ok ⟨listing, some table⟩ := by
  obtain ⟨openings, table, opened, parsed, rfl⟩ := lists
  obtain rfl := Except.ok.inj (begins.openings.symm.trans opened)
  have fetched := Options.fetched_eq_ok_iff.mpr ⟨text, rfl, gives⟩
  have present : Text.isBlankText text = false := by
    apply Bool.eq_false_iff.mpr
    intro blank
    rw [Table.parse_of_absent (Script.isBlankText_iff.mp blank)] at parsed
    exact nomatch parsed
  refine ⟨table, ?_⟩
  simp only [Session.offer, Session.script, begins.fetched, fetched, present,
    Bool.false_eq_true, if_false, parsed, begins.style]

end Begins

theorem openings_eq_error {fault : SettingsFault}
    (failed : session options settings world = .error fault) :
    Settings.openings settings = .error fault := by
  unfold session Session.start at failed
  cases read : Settings.openings settings with
  | error other =>
      simp only [read] at failed
      exact congrArg Except.error (Except.error.inj failed)
  | ok openings =>
      simp only [read] at failed
      exact nomatch failed

variable [Splitter]

/-- How a run goes. -/
inductive Course (options : Options) (world : World) :
    Except Fault Outcome → Prop where
  /-- The settings cannot be loaded, for a reason that is not known. -/
  | escaped {fault : SettingsFault}
      (failed : options.load world = .error fault)
      (foreign : fault.fault.IsForeign) :
      Course options world (.error fault.fault)
  | unloaded {fault : SettingsFault}
      (failed : options.load world = .error fault)
      (known : ¬fault.fault.IsForeign) :
      Course options world (.ok (refused world.desk fault.fault))
  /-- The settings name openings that cannot be used. -/
  | unopened {settings : Settings} {fault : SettingsFault}
      (loaded : options.load world = .ok settings)
      (failed : Settings.openings settings = .error fault) :
      Course options world (.ok (refused world.desk fault.fault))
  /-- A session makes its transformation. -/
  | transformed {settings : Settings} {start next : Session} {success : Bool}
      (begins : Begins options settings world start)
      (ends : Move.Ends start .transform next success)
      (shows : next.Shows success start.presenter.previews) :
      Course options world
        (.ok
          { exitCode := if success then 0 else 1
            output := next.sink.received
            messages := next.presenter.screen
            desk := next.desk })

theorem run_of_foreign {fault : SettingsFault}
    (failed : options.load world = .error fault)
    (foreign : fault.fault.IsForeign) :
    run options world = .error fault.fault := by
  obtain ⟨kind, message, same⟩ := foreign
  unfold run
  simp only [failed, Except.bind, same]

/-- A failure of the settings is shown, whether they cannot be loaded or a
session cannot start with them. -/
theorem run_of_known {fault : SettingsFault}
    (failed : ((options.load world).bind fun settings =>
      session options settings world) = .error fault)
    (known : ¬fault.fault.IsForeign) :
    run options world = .ok (refused world.desk fault.fault) := by
  unfold run
  simp only [failed]
  split
  · next kind message same => exact absurd ⟨kind, message, same⟩ known
  · rfl

theorem course_run (options : Options) (world : World) :
    Course options world (run options world) := by
  cases loaded : options.load world with
  | error fault =>
      by_cases foreign : fault.fault.IsForeign
      · rw [run_of_foreign loaded foreign]
        exact .escaped loaded foreign
      · rw [run_of_known (by rw [loaded]; rfl) foreign]
        exact .unloaded loaded foreign
  | ok settings =>
      cases started : session options settings world with
      | error fault =>
          have failed := openings_eq_error started
          rw [run_of_known (by rw [loaded]; exact started)
            (Settings.known_of_openings failed)]
          exact .unopened loaded failed
      | ok start =>
          have begins := begins_of_session loaded started
          have ends := start.ends_transform
          have shows := start.shows_transform begins.clear
          rw [begins.quiet] at ends
          have ran : run options world = .ok (finish start) := by
            unfold run
            simp only [loaded, Except.bind, started]
          rw [ran]
          exact .transformed begins ends shows

end CommandLine

end SchemaSheet
