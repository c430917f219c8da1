import SchemaSheet.Proofs.CommandLine.Course

/-!
# What a run reports

A run exits with zero or one, and with one just if something has failed; then
the failure is written to the standard error.  Only a file of settings that is
strange ends a run without an outcome.
-/

namespace SchemaSheet

namespace CommandLine

/-- The settings of a run cannot be used. -/
inductive Misconfigured (options : Options) (world : World) :
    Fault → Prop where
  | unloaded {fault : SettingsFault}
      (failed : options.load world = .error fault) :
      Misconfigured options world fault.fault
  | unopened {settings : Settings} {fault : SettingsFault}
      (loaded : options.load world = .ok settings)
      (failed : Settings.openings settings = .error fault) :
      Misconfigured options world fault.fault

/-- The settings of a run and the openings in them can be used. -/
structure Configured (options : Options) (world : World) (settings : Settings)
    (openings : List Opening) : Prop where
  loaded : options.load world = .ok settings
  openings : Settings.openings settings = .ok openings

variable {options : Options} {world : World}
  {settings : Settings} {start next : Session} {outcome : Outcome}

theorem messages_of_failed {fault : Fault} {previews : Bool}
    (failed : Move.Failed start next fault)
    (shows : next.Shows false previews) :
    next.presenter.screen = Status.line ⟨fault.message, .error⟩ := by
  obtain ⟨status, shown, _, screen⟩ := shows
  obtain rfl := Option.some.inj (failed.status.symm.trans shown)
  rw [screen, Bool.false_and, if_neg Bool.false_ne_true, List.append_nil]
  rfl

theorem messages_of_kept {offer : Offer} {previews : Bool}
    (kept : Move.Kept start .transform offer next)
    (shows : next.Shows true previews) :
    ∃ message shown, next.presenter.screen
      = Status.line ⟨message, .success⟩ ++ shown := by
  obtain ⟨message, good⟩ := kept.status
  obtain ⟨status, shown, _, screen⟩ := shows
  obtain rfl := Option.some.inj (good.symm.trans shown)
  exact ⟨message, _, screen⟩

section Reporting

variable [Splitter]

/-- A run that has its settings delivers nothing. -/
inductive Undelivered (options : Options) (world : World) :
    Fault → Prop where
  /-- The source cannot be read, or what it holds is no text. -/
  | unread {settings : Settings} {openings : List Opening} {fault : Fault}
      (configured : Configured options world settings openings)
      (failed : options.fetched world = .error fault) :
      Undelivered options world fault
  | blank {settings : Settings} {openings : List Opening} {text : Text}
      (configured : Configured options world settings openings)
      (gives : options.Gives world text)
      (blank : Text.isBlankText text = true) :
      Undelivered options world
        (Session.emptyFault (options.source world))
  | unparsed {settings : Settings} {openings : List Opening} {text : Text}
      {fault : ParseFault}
      (configured : Configured options world settings openings)
      (gives : options.Gives world text)
      (present : Text.isBlankText text = false)
      (failed : Table.parse openings (some text) = .error fault) :
      Undelivered options world fault.fault
  /-- The sink does not take the listing. -/
  | unwritten {settings : Settings} {openings : List Opening}
      {text listing : Text} {fault : Fault}
      (configured : Configured options world settings openings)
      (gives : options.Gives world text)
      (lists : settings.Lists text listing)
      (rejected : ((options.sink world).deliver world.desk listing).fault
        = some fault) :
      Undelivered options world fault

/-- A run has delivered a listing. -/
structure Delivered (options : Options) (world : World) (settings : Settings)
    (text listing : Text) : Prop where
  loaded : options.load world = .ok settings
  gives : options.Gives world text
  lists : settings.Lists text listing
  taken : ((options.sink world).deliver world.desk listing).fault = none

/-- What a run reports. -/
inductive Reports (options : Options) (world : World) (outcome : Outcome) :
    Prop where
  /-- Nothing has failed. -/
  | success {message shown : Text}
      (sound : ∀ fault, ¬Misconfigured options world fault
        ∧ ¬Undelivered options world fault)
      (exit : outcome.exitCode = 0)
      (messages : outcome.messages
        = Status.line ⟨message, .success⟩ ++ shown) :
      Reports options world outcome
  | misconfigured {fault : Fault}
      (failed : Misconfigured options world fault)
      (exit : outcome.exitCode = 1)
      (messages : outcome.messages = settingsNotice ++ fault.text ++ "\n") :
      Reports options world outcome
  | undelivered {fault : Fault}
      (failed : Undelivered options world fault)
      (exit : outcome.exitCode = 1)
      (messages : outcome.messages = Status.line ⟨fault.message, .error⟩) :
      Reports options world outcome

/-- Where a listing has been delivered, nothing has failed. -/
theorem Delivered.sound {text listing : Text}
    (delivered : Delivered options world settings text listing)
    (fault : Fault) :
    ¬Misconfigured options world fault
      ∧ ¬Undelivered options world fault := by
  obtain ⟨openings, table, opened, parsed, rfl⟩ := delivered.lists
  have same {other : Settings} {found : List Opening}
      (configured : Configured options world other found) :
      other = settings ∧ found = openings := by
    obtain rfl := Except.ok.inj (configured.loaded.symm.trans delivered.loaded)
    exact ⟨rfl, Except.ok.inj (configured.openings.symm.trans opened)⟩
  constructor
  · intro failure
    cases failure with
    | unloaded failed => exact nomatch delivered.loaded.symm.trans failed
    | unopened loaded failed =>
        obtain rfl := Except.ok.inj (loaded.symm.trans delivered.loaded)
        exact nomatch opened.symm.trans failed
  · intro failure
    cases failure with
    | unread configured failed =>
        have fetched := Options.fetched_eq_ok_iff.mpr
          ⟨text, rfl, delivered.gives⟩
        exact nomatch fetched.symm.trans failed
    | blank configured gives blank =>
        obtain rfl := gives.unique delivered.gives
        rw [Table.parse_of_absent (Script.isBlankText_iff.mp blank)] at parsed
        exact nomatch parsed
    | unparsed configured gives present failed =>
        obtain rfl := gives.unique delivered.gives
        obtain ⟨rfl, rfl⟩ := same configured
        exact nomatch parsed.symm.trans failed
    | unwritten configured gives lists rejected =>
        obtain rfl := gives.unique delivered.gives
        obtain ⟨rfl, rfl⟩ := same configured
        obtain ⟨_, _, openedAgain, parsedAgain, rfl⟩ := lists
        obtain rfl := Except.ok.inj (openedAgain.symm.trans opened)
        obtain rfl := Except.ok.inj (parsedAgain.symm.trans parsed)
        exact nomatch delivered.taken.symm.trans rejected

theorem Begins.undelivered (begins : Begins options settings world start)
    {fault : Fault} (offered : start.offer .transform = .error fault) :
    Undelivered options world fault := by
  have configured : Configured options world settings start.openings :=
    ⟨begins.loaded, begins.openings⟩
  simp only [Session.offer, Session.script, begins.fetched] at offered
  cases fetched : options.fetched world with
  | error reason =>
      simp only [fetched, Except.error.injEq] at offered
      exact .unread configured (offered ▸ fetched)
  | ok found =>
      obtain ⟨text, rfl, gives⟩ := Options.fetched_eq_ok_iff.mp fetched
      cases blank : Text.isBlankText text with
      | true =>
          simp only [fetched, blank, if_true, Except.error.injEq] at offered
          rw [← offered, begins.source]
          exact .blank configured gives blank
      | false =>
          simp only [fetched, blank, Bool.false_eq_true, if_false] at offered
          split at offered
          · next reason failed =>
              obtain rfl := Except.error.inj offered
              exact .unparsed configured gives blank failed
          · cases offered

end Reporting

def configuredArguments : List Text := ["--config", "settings.json"]

def configuredOptions : Options :=
  { Options.none with settings := some "settings.json" }

/-- A file of settings that is no text. -/
def undecodableFiles : FileTree := [(["settings.json"], .file [0xFF])]

end CommandLine

end SchemaSheet
