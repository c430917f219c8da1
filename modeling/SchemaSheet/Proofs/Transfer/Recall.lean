import SchemaSheet.Proofs.Transfer.Run
import SchemaSheet.Script.Statement

/-!
# What a session keeps

What a session keeps is told by the last transformation that succeeded: its
table, and the listing of it.  Before there is one, nothing is kept.
-/

namespace SchemaSheet

namespace Attempt

/-- The attempt is a transformation that succeeded. -/
def transformed (attempt : Attempt) : Bool :=
  attempt.move == .transform && attempt.success

end Attempt

/-- The last transformation that succeeded. -/
def lastTransformed? (history : List Attempt) : Option Attempt :=
  (history.filter Attempt.transformed).getLast?

theorem lastTransformed?_append (history : List Attempt) (attempt : Attempt) :
    lastTransformed? (history ++ [attempt])
      = if attempt.transformed then some attempt
        else lastTransformed? history := by
  unfold lastTransformed?
  rw [List.filter_append]
  cases transformed : attempt.transformed with
  | true => simp [transformed]
  | false => simp [transformed]

namespace Listing

theorem sanitize_ne_nil {text : Text} (nonempty : text ≠ []) :
    sanitize text ≠ [] := by
  cases text with
  | nil => exact absurd rfl nonempty
  | cons char rest =>
      rw [sanitize, sanitizeFrom]
      split
      · exact List.cons_ne_nil _ _
      · exact List.cons_ne_nil _ _

theorem field_ne_nil (style : ListingStyle) {text : Text}
    (nonempty : text ≠ []) : field style (some text) ≠ [] := by
  unfold field
  simp only [Option.getD_some]
  split
  · exact sanitize_ne_nil nonempty
  · exact nonempty

end Listing

/-- A listing begins with the name of its table, so it is never empty. -/
theorem Table.listing_ne_nil (style : ListingStyle) (table : Table) :
    table.listing style ≠ [] := by
  have named := Listing.field_ne_nil style table.name_ne_nil
  rw [listing, Listing.lines, List.cons_append]
  cases rest : (if style.titles then [Listing.row style Listing.titles] else [])
      ++ table.columns.map fun column =>
        Listing.row style (Listing.fieldsOf column) with
  | nil => simpa using named
  | cons next later =>
      rw [List.intercalate_cons_cons]
      simp [named]

/-- The code of a failure for want of a result. -/
def Fault.noResultCode : Text := "NO_RESULT"

namespace Sink

/-- The sink has been made to raise a failure with the given code. -/
def Raises (sink : Sink) (code : Text) : Prop :=
  ∃ name delivered fault,
    sink = .memory name delivered (some fault) ∧ fault.code = code

variable {sink : Sink} {desk : Desk} {text : Text}

theorem exists_fault_of_raises {code : Text} (raises : sink.Raises code) :
    ∃ fault, (sink.deliver desk text).fault = some fault
      ∧ fault.code = code := by
  obtain ⟨name, delivered, fault, rfl, coded⟩ := raises
  exact ⟨fault, rfl, coded⟩

theorem code_of_callFault {wording : Text → Fault} {reason : CallFault}
    (worded : ∀ message, (wording message).code = "OUTPUT_WRITE_ERROR") :
    (reason.fault wording).code = "OUTPUT_WRITE_ERROR"
      ∨ (reason.fault wording).code = "UNKNOWN_ERROR" := by
  unfold CallFault.fault
  split
  · exact .inl (worded reason.message)
  · exact .inr rfl

theorem code_of_fillClipboard {found : Clipboard} {fault : Fault}
    (rejected : (fillClipboard found text).2 = some fault) :
    fault.code = "OUTPUT_WRITE_ERROR" ∨ fault.code = "UNKNOWN_ERROR" := by
  unfold fillClipboard at rejected
  split at rejected
  · obtain rfl := Option.some.inj rejected
    exact .inl rfl
  · simp only at rejected
    split at rejected
    · obtain rfl := Option.some.inj rejected
      exact .inr rfl
    · obtain ⟨reason, -, rfl⟩ := Option.map_eq_some_iff.mp rejected
      exact .inl rfl

/-- A sink fails with the failure that it has been made to raise, and otherwise
for not being able to write, or in a way that the program does not know. -/
theorem raises_or_code_of_rejected {fault : Fault}
    (rejected : (sink.deliver desk text).fault = some fault) :
    sink.Raises fault.code ∨ fault.code = "OUTPUT_WRITE_ERROR"
      ∨ fault.code = "UNKNOWN_ERROR" := by
  cases sink with
  | memory name delivered raised =>
      cases raised with
      | none => cases rejected
      | some raised =>
          obtain rfl : raised = fault := Option.some.inj rejected
          exact .inl ⟨name, delivered, raised, rfl, rfl⟩
  | standardOutput received calls =>
      obtain ⟨reason, -, rfl⟩ := Option.map_eq_some_iff.mp rejected
      exact .inr (code_of_callFault fun _ => rfl)
  | file path =>
      obtain ⟨reason, -, rfl⟩ := Option.map_eq_some_iff.mp rejected
      exact .inr (code_of_callFault fun _ => rfl)
  | clipboard => exact .inr (code_of_fillClipboard rejected)

/-- No sink fails for want of a result, unless it has been made to. -/
theorem raises_of_code_eq_noResult {fault : Fault}
    (rejected : (sink.deliver desk text).fault = some fault)
    (coded : fault.code = Fault.noResultCode) :
    sink.Raises Fault.noResultCode := by
  rcases raises_or_code_of_rejected rejected with raises | unwritten | unknown
  · exact coded ▸ raises
  · exact absurd (coded.symm.trans unwritten) (by decide)
  · exact absurd (coded.symm.trans unknown) (by decide)

end Sink

namespace Session

variable {history : List Attempt} {session next : Session} {move : Move}
  {success : Bool}

theorem fetched_of_script_eq_ok {script : Text}
    (given : session.script = .ok script) :
    session.fetched = .ok (some script) := by
  unfold Session.script at given
  split at given
  · exact nomatch given
  · exact nomatch given
  · next found fetched =>
      split at given
      · exact nomatch given
      · rw [fetched, Except.ok.inj given]

section Kept

variable [Splitter]

/-- What a session keeps and shows after the transfers of a history: the last
table and its listing, or nothing. -/
structure Recalls (history : List Attempt) (session : Session) :
    Prop where
  nothing : lastTransformed? history = none →
    session.result = [] ∧ session.table = none
  last : ∀ attempt, lastTransformed? history = some attempt →
    ∃ script table, attempt.before.fetched = .ok (some script)
      ∧ Table.parse session.openings (some script) = .ok table
      ∧ session.table = some table
      ∧ session.result = table.listing session.style
  preview : session.presenter.preview = none
    ∨ session.presenter.preview = some session.result

theorem offer_transform_eq_ok {offer : Offer}
    (offered : session.offer .transform = .ok offer) :
    ∃ script table, session.fetched = .ok (some script)
      ∧ Table.parse session.openings (some script) = .ok table
      ∧ offer = ⟨table.listing session.style, some table⟩ := by
  simp only [Session.offer] at offered
  split at offered
  · cases offered
  · next script given =>
      split at offered
      · cases offered
      · next table parsed =>
          exact ⟨script, table, fetched_of_script_eq_ok given, parsed,
            (Except.ok.inj offered).symm⟩

theorem listed_of_step (stepped :
      session.step Move.transform.action = (next, .verdict true)) :
    ∃ script table, session.fetched = .ok (some script)
      ∧ Table.parse session.openings (some script) = .ok table
      ∧ next.result = table.listing session.style := by
  cases ends_of_step stepped with
  | delivered offered taken kept sink desk =>
      obtain ⟨script, table, fetched, parsed, rfl⟩ :=
        offer_transform_eq_ok offered
      exact ⟨script, table, fetched, parsed, kept.result⟩

theorem result_ne_nil_of_step (stepped :
      session.step Move.transform.action = (next, .verdict true)) :
    next.result ≠ [] := by
  obtain ⟨script, table, _, _, listed⟩ := listed_of_step stepped
  rw [listed]
  exact table.listing_ne_nil _

theorem offer_copyResult_eq_ok {offer : Offer}
    (offered : session.offer .copyResult = .ok offer) :
    session.result ≠ [] ∧ offer = ⟨session.result, session.table⟩ := by
  simp only [Session.offer] at offered
  split at offered
  · cases offered
  · next filled =>
      refine ⟨?_, (Except.ok.inj offered).symm⟩
      simpa using filled

theorem offer_copyResult_eq_error {fault : Fault}
    (offered : session.offer .copyResult = .error fault) :
    session.result = [] ∧ fault = .noResult Fault.noResultMessage := by
  simp only [Session.offer] at offered
  split at offered
  · next empty =>
      exact ⟨by simpa using empty, (Except.error.inj offered).symm⟩
  · cases offered

namespace Recalls

theorem result_eq_nil_iff (recalls : Recalls history session) :
    session.result = [] ↔ lastTransformed? history = none := by
  constructor
  · intro empty
    cases found : lastTransformed? history with
    | none => rfl
    | some attempt =>
        obtain ⟨_, table, _, _, _, listed⟩ := recalls.last attempt found
        exact absurd (listed.symm.trans empty) (table.listing_ne_nil _)
  · intro absent
    exact (recalls.nothing absent).1

theorem table_eq_none_iff (recalls : Recalls history session) :
    session.table = none ↔ lastTransformed? history = none := by
  constructor
  · intro untabled
    cases found : lastTransformed? history with
    | none => rfl
    | some attempt =>
        obtain ⟨_, table, _, _, tabled, _⟩ := recalls.last attempt found
        exact nomatch untabled.symm.trans tabled
  · intro absent
    exact (recalls.nothing absent).2

theorem preview_of_steady (recalls : Recalls history session)
    (steady : Move.Steady session next) :
    next.presenter.preview = none
      ∨ next.presenter.preview = some next.result := by
  rcases steady.preview with hidden | shown | ⟨same, sameResult⟩
  · exact .inl hidden
  · exact .inr shown
  · rw [same, sameResult]
    exact recalls.preview

theorem idle (recalls : Recalls history session)
    (steady : Move.Steady session next)
    (sameResult : next.result = session.result)
    (sameTable : next.table = session.table)
    (unmoved : (move == .transform && success) = false) :
    Recalls (history ++ [⟨move, session, next, success⟩]) next := by
  have same : lastTransformed? (history ++ [⟨move, session, next, success⟩])
      = lastTransformed? history := by
    rw [lastTransformed?_append]
    simp only [Attempt.transformed, unmoved, Bool.false_eq_true, if_false]
  exact
    { nothing := by
        rw [same, sameResult, sameTable]
        exact recalls.nothing
      last := by
        rw [same, sameResult, sameTable, steady.openings, steady.style]
        exact recalls.last
      preview := recalls.preview_of_steady steady }

theorem transformed {offer : Offer} (recalls : Recalls history session)
    (offered : session.offer .transform = .ok offer)
    (kept : Move.Kept session .transform offer next) :
    Recalls (history ++ [⟨.transform, session, next, true⟩]) next := by
  have latest :
      lastTransformed? (history ++ [⟨.transform, session, next, true⟩])
        = some ⟨.transform, session, next, true⟩ := by
    rw [lastTransformed?_append]
    rfl
  obtain ⟨script, table, fetched, parsed, rfl⟩ := offer_transform_eq_ok offered
  have listed := kept.result
  rw [← kept.openings] at parsed
  rw [← kept.style] at listed
  exact
    { nothing := by
        rw [latest]
        exact fun absent => nomatch absent
      last := by
        rw [latest]
        rintro attempt found
        obtain rfl := Option.some.inj found
        exact ⟨script, table, fetched, parsed, kept.table, listed⟩
      preview := recalls.preview_of_steady kept.toSteady }

/-- One transfer preserves what its session recalls. -/
theorem step (recalls : Recalls history session)
    (stepped : session.step move.action = (next, .verdict success)) :
    Recalls (history ++ [⟨move, session, next, success⟩]) next := by
  cases ends_of_step stepped with
  | refused offered failed sink desk =>
      exact recalls.idle failed.toSteady failed.result failed.table
        (Bool.and_false _)
  | undelivered offered rejected failed sink desk =>
      exact recalls.idle failed.toSteady failed.result failed.table
        (Bool.and_false _)
  | delivered offered taken kept sink desk =>
      cases move with
      | transform => exact recalls.transformed offered kept
      | copyResult =>
          obtain ⟨_, rfl⟩ := offer_copyResult_eq_ok offered
          exact recalls.idle kept.toSteady kept.result kept.table rfl

theorem rearranged (recalls : Recalls history session)
    (changed : Rearranged session next) :
    Recalls history next := by
  obtain ⟨source, sink, desk, rfl⟩ := changed
  exact { recalls with }

/-- What a session recalls is an invariant of its runs. -/
theorem run {start : Session} (recalls : Recalls [] start)
    (run : Run Rearranged start history session) :
    Recalls history session := by
  induction run with
  | start => exact recalls
  | attempt _ stepped induction => exact induction.step stepped
  | change _ changed induction => exact induction.rearranged changed

/-- For want of a result, a session fails to deliver it again if and only if
nothing has been transformed, unless its sink raises that very failure. -/
theorem copyResult_noResult_iff (recalls : Recalls history session)
    (stepped : session.step .copyResult = (next, .verdict success)) :
    (success = false ∧ next.lastError.map Report.code = some Fault.noResultCode)
      ↔ lastTransformed? history = none
        ∨ session.sink.Raises Fault.noResultCode := by
  have coded {fault : Fault} (failed : Move.Failed session next fault) :
      next.lastError.map Report.code = some fault.code := by
    rw [failed.lastError]
    rfl
  have ends : Move.Ends session .copyResult next success :=
    ends_of_step stepped
  cases ends with
  | refused offered failed sink desk =>
      obtain ⟨empty, rfl⟩ := offer_copyResult_eq_error offered
      have absent := recalls.result_eq_nil_iff.mp empty
      exact ⟨fun _ => .inl absent, fun _ => ⟨rfl, coded failed⟩⟩
  | undelivered offered rejected failed sink desk =>
      obtain ⟨filled, rfl⟩ := offer_copyResult_eq_ok offered
      rw [coded failed]
      constructor
      · rintro ⟨_, same⟩
        exact .inr
          (Sink.raises_of_code_eq_noResult rejected (Option.some.inj same))
      · rintro (absent | raises)
        · exact absurd (recalls.result_eq_nil_iff.mpr absent) filled
        · obtain ⟨fault, raised, same⟩ := Sink.exists_fault_of_raises raises
          obtain rfl := Option.some.inj (rejected.symm.trans raised)
          exact ⟨rfl, congrArg some same⟩
  | delivered offered taken kept sink desk =>
      obtain ⟨filled, rfl⟩ := offer_copyResult_eq_ok offered
      constructor
      · rintro ⟨impossible, _⟩
        exact nomatch impossible
      · rintro (absent | raises)
        · exact absurd (recalls.result_eq_nil_iff.mpr absent) filled
        · obtain ⟨fault, raised, _⟩ := Sink.exists_fault_of_raises raises
          exact nomatch taken.symm.trans raised

end Recalls

theorem recalls_start {settings : Settings} {source : Source} {sink : Sink}
    {desk : Desk} {presenter : Option Presenter} {start : Session}
    (accepted : Session.start settings source sink desk presenter = .ok start)
    (fresh : ∀ given ∈ presenter, given.preview = none) :
    Recalls [] start := by
  obtain ⟨_, started⟩ := eq_of_start accepted
  rw [started]
  exact
    { nothing := fun _ => ⟨rfl, rfl⟩
      last := fun _ absent => nomatch absent
      preview := by
        cases presenter with
        | none => exact .inl rfl
        | some given => exact .inl (fresh given rfl) }

/-- In every run, whatever becomes of source, sink and desk, a session keeps
the table of the last transformation that succeeded, with its listing, and
nothing before there is one.  Each transfer ends with a verdict; one that fails
leaves what is kept alone. -/
theorem kept_of_run {settings : Settings} {source : Source} {sink : Sink}
    {desk : Desk} {presenter : Option Presenter} {start : Session}
    (accepted : Session.start settings source sink desk presenter = .ok start)
    (fresh : ∀ given ∈ presenter, given.preview = none)
    (run : Run Rearranged start history session) :
    (session.result = [] ↔ session.table = none)
      ∧ (session.table = none ↔ lastTransformed? history = none)
      ∧ (∀ attempt, lastTransformed? history = some attempt →
        ∃ openings script table,
          Settings.openings settings = .ok openings
            ∧ attempt.before.fetched = .ok (some script)
            ∧ Table.parse openings (some script) = .ok table
            ∧ session.table = some table
            ∧ session.result = table.listing (Settings.style settings)
            ∧ session.result ≠ [])
      ∧ (session.presenter.preview = none
        ∨ session.presenter.preview = some session.result)
      ∧ ∀ move : Move, ∃ next success,
        session.step move.action = (next, .verdict success)
          ∧ (success = false →
            next.result = session.result ∧ next.table = session.table)
          ∧ (move = .copyResult →
            ((success = false
                ∧ next.lastError.map Report.code = some Fault.noResultCode)
              ↔ lastTransformed? history = none
                ∨ session.sink.Raises Fault.noResultCode)) := by
  have recalls := (recalls_start accepted fresh).run run
  have obeys := run.obeys accepted
  refine ⟨recalls.result_eq_nil_iff.trans recalls.table_eq_none_iff.symm,
    recalls.table_eq_none_iff, ?_, recalls.preview, ?_⟩
  · intro attempt found
    obtain ⟨script, table, fetched, parsed, tabled, listed⟩ :=
      recalls.last attempt found
    have filled : session.result ≠ [] := by
      rw [listed]
      exact table.listing_ne_nil _
    rw [obeys.style] at listed
    exact ⟨session.openings, script, table, obeys.openings, fetched, parsed,
      tabled, listed, filled⟩
  · intro move
    obtain ⟨next, success, stepped, ends⟩ := session.exists_ends move
    refine ⟨next, success, stepped, ?_, ?_⟩
    · intro failure
      exact ends.kept_of_failure failure
    · rintro rfl
      exact recalls.copyResult_noResult_iff stepped

end Kept

/-- A source with a script of one column. -/
def smallSource : Source :=
  .memory "memory" (some "CREATE TABLE t(a b)") none

def emptySink : Sink := .memory "memory" [] none

def soundClipboard : Clipboard := ⟨[], .sound⟩

def emptyDesk : Desk :=
  { files := [], calls := .sound, clipboard := soundClipboard }

/-- A session with the usual settings. -/
def smallStart : Session :=
  { openings := Opening.standard
    style := ⟨true, false⟩
    source := smallSource
    sink := emptySink
    desk := emptyDesk
    presenter := .start true
    result := []
    table := none
    lastError := none
    journal := [] }

theorem start_nil :
    Session.start [] smallSource emptySink emptyDesk none
      = .ok smallStart := by
  rfl

/-- The small session after its script has been transformed. -/
def smallListed : Session := smallStart.quiet.transform.1

theorem smallListed_of_step :
    smallStart.step Move.transform.action = (smallListed, .verdict true) :=
  step_transform (by decide +kernel)

theorem run_smallListed :
    Run Rearranged smallStart
      [⟨.transform, smallStart, smallListed, true⟩] smallListed :=
  Run.attempt Run.start smallListed_of_step

theorem kept_of_one_transformation :
    ∃ next, smallStart.step Move.transform.action = (next, .verdict true)
      ∧ next.table ≠ none ∧ next.result ≠ [] := by
  have kept := kept_of_run start_nil (fun _ absent => nomatch absent)
    run_smallListed
  have tabled : smallListed.table ≠ none :=
    fun untabled => nomatch kept.2.1.mp untabled
  exact ⟨_, smallListed_of_step, tabled,
    fun empty => tabled (kept.1.mp empty)⟩

/-- That session with a sink that raises a failure for want of a result. -/
def smallThwarted : Session :=
  { smallListed with
    sink := .memory "memory" [] (some (.noResult "the sink has no room")) }

/-- A result can be lacking although a script has been transformed: the sink may
say so. -/
theorem not_noResult_only_if_untransformed :
    ¬∀ (settings : Settings) (source : Source) (sink : Sink) (desk : Desk)
      (start session next : Session) (history : List Attempt)
      (success : Bool),
      Session.start settings source sink desk none = .ok start →
        Run Rearranged start history session →
          session.step Move.copyResult.action = (next, .verdict success) →
            ((success = false
                ∧ next.lastError.map Report.code = some Fault.noResultCode)
              ↔ lastTransformed? history = none) := by
  intro only
  have run := Run.change run_smallListed
    (⟨smallListed.source, _, smallListed.desk, rfl⟩ :
      Rearranged smallListed smallThwarted)
  have recalls := (recalls_start start_nil (by simp)).run run
  obtain ⟨next, success, stepped, -⟩ := smallThwarted.exists_ends .copyResult
  have lacking := (recalls.copyResult_noResult_iff stepped).mpr
    (.inr ⟨_, _, _, rfl, rfl⟩)
  cases (only _ _ _ _ _ _ _ _ _ start_nil run stepped).mp lacking

end Session

end SchemaSheet
