import SchemaSheet.Transfer.Action

/-!
# What a transfer does

A transfer offers a listing to the sink, and the session keeps it once the sink
has taken it.  `Move.Ends` lists the three ways in which a transfer ends, with
what it changes; `exists_ends` says that there are no others, so that a transfer
always ends with a verdict.
-/

namespace SchemaSheet

/-- The two ways to move a listing to the sink. -/
inductive Move where
  | transform
  | copyResult
  deriving DecidableEq, Repr

def Move.action : Move → Action
  | transform => .transform
  | copyResult => .copyResult

/-- A listing for the sink, and the table that the session keeps when the sink
takes it. -/
structure Offer where
  listing : Text
  table : Option Table

namespace Session

/-- What the source of the session gives. -/
def fetched (session : Session) : Except Fault (Option Text) :=
  (session.source.fetch session.desk).1

/-- The script that the source gives, unless there is nothing in it. -/
def script (session : Session) : Except Fault Text :=
  match session.fetched with
  | .error fault => .error fault
  | .ok none => .error (emptyFault session.source)
  | .ok (some script) =>
      if Text.isBlankText script then .error (emptyFault session.source)
      else .ok script

/-- What a transfer is about to deliver, or why there is nothing to deliver. -/
def offer [Splitter] (session : Session) : Move → Except Fault Offer
  | .transform =>
      match session.script with
      | .error fault => .error fault
      | .ok script =>
          match Table.parse session.openings (some script) with
          | .error fault => .error fault.fault
          | .ok table => .ok ⟨table.listing session.style, some table⟩
  | .copyResult =>
      if session.result.isEmpty then
        .error (.noResult Fault.noResultMessage)
      else .ok ⟨session.result, session.table⟩

/-- What becomes of an offer at the sink. -/
def delivery (session : Session) (offer : Offer) : Delivery :=
  session.sink.deliver session.desk offer.listing

end Session

namespace Move

/-- What a transfer never changes, and what it does to the preview. -/
structure Steady (session next : Session) : Prop where
  openings : next.openings = session.openings
  style : next.style = session.style
  preview : next.presenter.preview = none
    ∨ next.presenter.preview = some next.result
    ∨ (next.presenter.preview = session.presenter.preview
      ∧ next.result = session.result)

/-- A transfer has not reached the sink yet. -/
structure Underway (session middle : Session) : Prop
    extends Steady session middle where
  result : middle.result = session.result
  table : middle.table = session.table
  lastError : middle.lastError = session.lastError
  sink : middle.sink = session.sink
  desk : middle.desk = session.desk

/-- A transfer failed: the session keeps the fault, and what it kept before. -/
structure Failed (session next : Session) (fault : Fault) : Prop
    extends Steady session next where
  result : next.result = session.result
  table : next.table = session.table
  lastError : next.lastError = some fault.report
  status : next.presenter.status = some ⟨fault.report.message, .error⟩

/-- The session that delivered an offer has kept it.  Only a transformation
forgets the last failure. -/
structure Kept (session : Session) (move : Move) (offer : Offer)
    (next : Session) : Prop extends Steady session next where
  result : next.result = offer.listing
  table : next.table = offer.table
  lastError : next.lastError
    = match move with
      | .transform => none
      | .copyResult => session.lastError
  status : ∃ message, next.presenter.status = some ⟨message, .success⟩

/-- How a transfer ends. -/
inductive Ends [Splitter] (session : Session) (move : Move) :
    Session → Bool → Prop where
  /-- There is nothing to deliver, and the sink is not asked. -/
  | refused {next : Session} {fault : Fault}
      (offered : session.offer move = .error fault)
      (failed : Failed session next fault)
      (sink : next.sink = session.sink) (desk : next.desk = session.desk) :
      Ends session move next false
  /-- The sink does not take the listing. -/
  | undelivered {next : Session} {offer : Offer} {fault : Fault}
      (offered : session.offer move = .ok offer)
      (rejected : (session.delivery offer).fault = some fault)
      (failed : Failed session next fault)
      (sink : next.sink = (session.delivery offer).sink)
      (desk : next.desk = (session.delivery offer).desk) :
      Ends session move next false
  | delivered {next : Session} {offer : Offer}
      (offered : session.offer move = .ok offer)
      (taken : (session.delivery offer).fault = none)
      (kept : Kept session move offer next)
      (sink : next.sink = (session.delivery offer).sink)
      (desk : next.desk = (session.delivery offer).desk) :
      Ends session move next true

theorem Ends.steady [Splitter] {session next : Session} {move : Move}
    {success : Bool} (ends : Ends session move next success) :
    Steady session next := by
  cases ends with
  | refused offered failed sink desk => exact failed.toSteady
  | undelivered offered rejected failed sink desk => exact failed.toSteady
  | delivered offered taken kept sink desk => exact kept.toSteady

/-- A transfer that fails leaves alone what its session keeps. -/
theorem Ends.kept_of_failure [Splitter] {session next : Session} {move : Move}
    {success : Bool} (ends : Ends session move next success)
    (failure : success = false) :
    next.result = session.result ∧ next.table = session.table := by
  cases ends with
  | refused offered failed sink desk => exact ⟨failed.result, failed.table⟩
  | undelivered offered rejected failed sink desk =>
      exact ⟨failed.result, failed.table⟩
  | delivered offered taken kept sink desk => exact nomatch failure

/-- A transfer goes on behind the sink: it fails with the fault of the sink, or
the session keeps what has been delivered. -/
def settle (keep : Session → Session) :
    Session × Option Fault → Session × Bool
  | (session, some fault) => (session.fail fault, false)
  | (session, none) => (keep session, true)

namespace Underway

variable {session middle : Session} {move : Move}

theorem failed {fault : Fault} (underway : Underway session middle) :
    Failed session (middle.fail fault) fault :=
  { openings := underway.openings
    style := underway.style
    preview := underway.preview
    result := underway.result
    table := underway.table
    lastError := rfl
    status := rfl }

theorem ends_settle [Splitter] (keep : Session → Session) {offer : Offer}
    (underway : Underway session middle)
    (offered : session.offer move = .ok offer)
    (kept : Kept session move offer (keep (middle.deliver offer.listing).1))
    (sink : ∀ next, (keep next).sink = next.sink)
    (desk : ∀ next, (keep next).desk = next.desk) :
    Ends session move (settle keep (middle.deliver offer.listing)).1
      (settle keep (middle.deliver offer.listing)).2 := by
  have same : middle.sink.deliver middle.desk offer.listing
      = session.delivery offer := by
    rw [underway.sink, underway.desk]
    rfl
  have sameFault : (middle.deliver offer.listing).2
      = (session.delivery offer).fault := congrArg Delivery.fault same
  have sameSink : (middle.deliver offer.listing).1.sink
      = (session.delivery offer).sink := congrArg Delivery.sink same
  have sameDesk : (middle.deliver offer.listing).1.desk
      = (session.delivery offer).desk := congrArg Delivery.desk same
  have failed (fault : Fault) :
      Failed session ((middle.deliver offer.listing).1.fail fault) fault :=
    { underway.failed with lastError := rfl, status := rfl }
  generalize middle.deliver offer.listing = outcome at *
  obtain ⟨next, fault⟩ := outcome
  cases fault with
  | some fault =>
      exact .undelivered offered sameFault.symm (failed fault) sameSink
        sameDesk
  | none =>
      exact .delivered offered sameFault.symm kept
        ((sink next).trans sameSink) ((desk next).trans sameDesk)

end Underway

/-- A session that shows nothing and keeps a listing shows that listing, if it
shows any. -/
theorem Steady.commit {session middle : Session}
    (steady : Steady session middle)
    (hidden : middle.presenter.preview = none) (table : Table)
    (listing : Text) : Steady session (middle.commit table listing) := by
  unfold Session.commit Presenter.showPreview
  refine ⟨steady.openings, steady.style, ?_⟩
  simp only
  split
  · exact .inr (.inl rfl)
  · exact .inl hidden

end Move

namespace Source

theorem name_fetch (source : Source) (desk : Desk) :
    (source.fetch desk).2.name = source.name := by
  cases source with
  | standardInput octets fault => cases fault <;> rfl
  | memory name text fault => rfl
  | file path => rfl
  | clipboard => rfl

end Source

namespace Session

open Move

theorem status_commit (session : Session) (table : Table) (listing : Text) :
    ∃ message, (session.commit table listing).presenter.status
      = some ⟨message, .success⟩ := by
  unfold commit Presenter.showPreview
  simp only
  split
  · exact ⟨_, rfl⟩
  · exact ⟨_, rfl⟩

theorem transformText_eq [Splitter] (session : Session) (script : Text) :
    session.transformText script
      = match Table.parse session.openings (some script) with
        | .error fault =>
            ((session.note (Table.parseEvents session.openings
              (some script))).fail fault.fault, false)
        | .ok table =>
            settle (·.commit table (table.listing session.style))
              ((session.note (Table.parseEvents session.openings
                (some script))).deliver (table.listing session.style)) := by
  rfl

/-- What a session shows that has delivered its result again. -/
def copied (session : Session) : Session :=
  { session with
    presenter := session.presenter.showStatus
      ⟨"Copied to " ++ session.sink.name, .success⟩ }

theorem copyResult_eq (session : Session) :
    session.copyResult
      = if session.result.isEmpty then
          (session.fail (.noResult Fault.noResultMessage), false)
        else settle copied (session.deliver session.result) := by
  rfl

variable [Splitter]

theorem ends_transformText {session middle : Session} {script : Text}
    (given : session.script = .ok script)
    (underway : Underway session middle)
    (hidden : middle.presenter.preview = none) :
    Ends session .transform (middle.transformText script).1
      (middle.transformText script).2 := by
  obtain ⟨noted, isNoted⟩ : ∃ noted, noted
      = middle.note (Table.parseEvents middle.openings (some script)) :=
    ⟨_, rfl⟩
  have onward : Underway session noted := by
    rw [isNoted]
    exact { underway with }
  have stillHidden : noted.presenter.preview = none := by
    rw [isNoted]
    exact hidden
  rw [transformText_eq, ← isNoted, underway.openings, underway.style]
  cases parsed : Table.parse session.openings (some script) with
  | error fault =>
      have offered : session.offer .transform = .error fault.fault := by
        simp [offer, given, parsed]
      exact .refused offered onward.failed onward.sink onward.desk
  | ok table =>
      have offered : session.offer .transform
          = .ok ⟨table.listing session.style, some table⟩ := by
        simp [offer, given, parsed]
      have steady : Steady session
          (noted.deliver (table.listing session.style)).1 := { onward with }
      have kept : Kept session .transform
          ⟨table.listing session.style, some table⟩
          ((noted.deliver (table.listing session.style)).1.commit table
            (table.listing session.style)) :=
        { steady.commit stillHidden table _ with
          result := rfl
          table := rfl
          lastError := rfl
          status := status_commit _ table _ }
      have settled := onward.ends_settle
        (·.commit table (table.listing session.style)) offered kept
        (fun _ => rfl) (fun _ => rfl)
      exact settled

theorem ends_transform (session : Session) :
    Ends session .transform session.quiet.transform.1
      session.quiet.transform.2 := by
  obtain ⟨opened, isOpened⟩ : ∃ opened : Session, opened =
      { session.quiet with
        source := (session.source.fetch session.desk).2
        presenter := session.quiet.presenter.hideStatus.hidePreview } :=
    ⟨_, rfl⟩
  have hidden : opened.presenter.preview = none := by
    rw [isOpened]
    rfl
  have underway : Underway session opened := by
    rw [isOpened]
    exact ⟨⟨rfl, rfl, .inl rfl⟩, rfl, rfl, rfl, rfl, rfl⟩
  have refused {fault : Fault} (blocked : session.script = .error fault) :
      Ends session .transform (opened.fail fault) false := by
    have offered : session.offer .transform = .error fault := by
      simp [offer, blocked]
    exact .refused offered underway.failed underway.sink underway.desk
  have unfolded : session.quiet.transform
      = match session.fetched with
        | .error fault => (opened.fail fault, false)
        | .ok none => (opened.fail (emptyFault opened.source), false)
        | .ok (some script) =>
            if Text.isBlankText script then
              (opened.fail (emptyFault opened.source), false)
            else opened.transformText script := by
    rw [isOpened]
    rfl
  have emptyFault_opened :
      emptyFault opened.source = emptyFault session.source := by
    rw [isOpened, emptyFault, emptyFault, Source.name_fetch]
  rw [unfolded, emptyFault_opened]
  cases fetched : session.fetched with
  | error fault => exact refused (by simp [script, fetched])
  | ok found =>
      cases found with
      | none => exact refused (by simp [script, fetched])
      | some text =>
          cases blank : Text.isBlankText text with
          | true =>
              have blocked :
                  session.script = .error (emptyFault session.source) := by
                simp [script, fetched, blank]
              simp only [blank, if_true]
              exact refused blocked
          | false =>
              have given : session.script = .ok text := by
                simp [script, fetched, blank]
              simp only [blank, Bool.false_eq_true, if_false]
              exact ends_transformText given underway hidden

theorem ends_copyResult (session : Session) :
    Ends session .copyResult session.quiet.copyResult.1
      session.quiet.copyResult.2 := by
  have underway : Underway session session.quiet :=
    ⟨⟨rfl, rfl, .inr (.inr ⟨rfl, rfl⟩)⟩, rfl, rfl, rfl, rfl, rfl⟩
  rw [copyResult_eq, underway.result]
  cases empty : session.result.isEmpty with
  | true =>
      have offered : session.offer .copyResult
          = .error (.noResult Fault.noResultMessage) := by
        simp [offer, empty]
      exact .refused offered underway.failed underway.sink underway.desk
  | false =>
      have offered : session.offer .copyResult
          = .ok ⟨session.result, session.table⟩ := by
        simp [offer, empty]
      have kept : Kept session .copyResult ⟨session.result, session.table⟩
          (session.quiet.deliver session.result).1.copied :=
        { underway with
          result := rfl
          table := rfl
          lastError := rfl
          status := ⟨_, rfl⟩ }
      have settled := underway.ends_settle copied offered kept
        (fun _ => rfl) (fun _ => rfl)
      exact settled

theorem step_transform {session : Session} {success : Bool}
    (verdict : session.quiet.transform.2 = success) :
    session.step Move.transform.action
      = (session.quiet.transform.1, .verdict success) := by
  rw [← verdict]
  rfl

theorem step_copyResult {session : Session} {success : Bool}
    (verdict : session.quiet.copyResult.2 = success) :
    session.step Move.copyResult.action
      = (session.quiet.copyResult.1, .verdict success) := by
  rw [← verdict]
  rfl

/-- A transfer ends in one of the three ways. -/
theorem exists_ends (session : Session) (move : Move) :
    ∃ next success, session.step move.action = (next, .verdict success)
      ∧ Ends session move next success := by
  cases move with
  | transform => exact ⟨_, _, rfl, session.ends_transform⟩
  | copyResult => exact ⟨_, _, rfl, session.ends_copyResult⟩

theorem ends_of_step {session next : Session} {move : Move} {success : Bool}
    (stepped : session.step move.action = (next, .verdict success)) :
    Ends session move next success := by
  obtain ⟨other, verdict, same, ends⟩ := session.exists_ends move
  rw [stepped] at same
  cases same
  exact ends

/-- The transfer has handed its offer to the sink. -/
structure Handed (session next : Session) (offer : Offer) (success : Bool) :
    Prop where
  taken : success = true ↔ (session.delivery offer).fault = none
  sink : next.sink = (session.delivery offer).sink
  desk : next.desk = (session.delivery offer).desk
  result : success = true → next.result = offer.listing

variable {session next : Session} {move : Move} {success : Bool}

theorem handed_of_step {offer : Offer}
    (offered : session.offer move = .ok offer)
    (stepped : session.step move.action = (next, .verdict success)) :
    Handed session next offer success := by
  cases ends_of_step stepped with
  | refused same failed sink desk => cases offered.symm.trans same
  | undelivered same rejected failed sink desk =>
      obtain rfl := Except.ok.inj (offered.symm.trans same)
      exact
        { taken := by simp [rejected]
          sink
          desk
          result := by rintro ⟨⟩ }
  | delivered same taken kept sink desk =>
      obtain rfl := Except.ok.inj (offered.symm.trans same)
      exact
        { taken := by simp [taken]
          sink
          desk
          result := fun _ => kept.result }

theorem idle_of_step {fault : Fault}
    (offered : session.offer move = .error fault)
    (stepped : session.step move.action = (next, .verdict success)) :
    success = false ∧ next.sink = session.sink ∧ next.desk = session.desk := by
  cases ends_of_step stepped with
  | refused same failed sink desk => exact ⟨rfl, sink, desk⟩
  | undelivered same rejected failed sink desk =>
      cases offered.symm.trans same
  | delivered same taken kept sink desk => cases offered.symm.trans same

end Session

end SchemaSheet
