import SchemaSheet.Proofs.Transfer.Recall

/-!
# The last error and the status

A transfer that fails keeps the report of its fault and shows the message of
it.  A transfer that succeeds shows good news, but only a transformation
forgets the report: a session keeps the report of the last failure since the
last transformation that succeeded.  So last error and status disagree in one
case, when a listing is delivered again although such a failure is kept.
-/

namespace SchemaSheet

namespace Session

/-- What stops a transfer: a fault that leaves nothing to deliver, or a fault of
the sink. -/
def obstacle? [Splitter] (session : Session) (move : Move) : Option Fault :=
  match session.offer move with
  | .error fault => some fault
  | .ok offer => (session.delivery offer).fault

/-- The status of the session is good news. -/
def ShowsSuccess (session : Session) : Prop :=
  ∃ status, session.presenter.status = some status ∧ status.kind = .success

end Session

namespace Attempt

/-- What stopped the transfer. -/
def fault? [Splitter] (attempt : Attempt) : Option Fault :=
  attempt.before.obstacle? attempt.move

/-- What the session keeps and shows of faults right after the transfer. -/
structure Tells [Splitter] (attempt : Attempt) : Prop where
  failed : attempt.success = false →
    ∃ fault, attempt.fault? = some fault
      ∧ attempt.after.lastError = some fault.report
      ∧ attempt.after.presenter.status = some ⟨fault.report.message, .error⟩
  succeeded : attempt.success = true →
    attempt.fault? = none ∧ attempt.after.ShowsSuccess
  forgotten : attempt.transformed = true → attempt.after.lastError = none
  kept : attempt.success = true → attempt.transformed = false →
    attempt.after.lastError = attempt.before.lastError

end Attempt

/-- The fault of the last transfer that failed, unless a transformation has
succeeded since then. -/
def lastFault? [Splitter] (history : List Attempt) : Option Fault :=
  (history.reverse.takeWhile fun attempt => !attempt.transformed).findSome?
    Attempt.fault?

theorem lastFault?_append [Splitter] (history : List Attempt)
    (attempt : Attempt) :
    lastFault? (history ++ [attempt])
      = if attempt.transformed then none
        else attempt.fault?.or (lastFault? history) := by
  unfold lastFault?
  rw [List.reverse_concat, List.takeWhile_cons]
  cases transformed : attempt.transformed with
  | true => rfl
  | false =>
      cases stopped : attempt.fault? with
      | none => simp [stopped]
      | some fault => simp [stopped]

namespace Session

variable {session next : Session} {move : Move} {success : Bool}

theorem tells_of_ends [Splitter] (ends : Move.Ends session move next success) :
    Attempt.Tells ⟨move, session, next, success⟩ := by
  have stopped {fault : Fault} (obstacle : session.obstacle? move = some fault)
      (failed : Move.Failed session next fault) :
      Attempt.Tells ⟨move, session, next, false⟩ :=
    { failed := fun _ => ⟨fault, obstacle, failed.lastError, failed.status⟩
      succeeded := by rintro ⟨⟩
      forgotten := by
        rw [Attempt.transformed, Bool.and_false]
        rintro ⟨⟩
      kept := by rintro ⟨⟩ }
  cases ends with
  | refused offered failed sink desk =>
      refine stopped ?_ failed
      simp [obstacle?, offered]
  | undelivered offered rejected failed sink desk =>
      refine stopped ?_ failed
      simp [obstacle?, offered, rejected]
  | delivered offered taken kept sink desk =>
      have unstopped : session.obstacle? move = none := by
        simp [obstacle?, offered, taken]
      obtain ⟨message, shown⟩ := kept.status
      have lastError := kept.lastError
      exact
        { failed := by rintro ⟨⟩
          succeeded := fun _ => ⟨unstopped, _, shown, rfl⟩
          forgotten := by
            intro transformed
            cases move with
            | transform => exact lastError
            | copyResult => cases transformed
          kept := by
            intro _ untransformed
            cases move with
            | transform => cases untransformed
            | copyResult => exact lastError }

end Session

namespace Attempt.Tells

variable {attempt : Attempt}

theorem lastError_eq [Splitter] (tells : attempt.Tells) :
    attempt.after.lastError
      = if attempt.transformed then none
        else (attempt.fault?.map Fault.report).or attempt.before.lastError := by
  cases success : attempt.success with
  | false =>
      obtain ⟨fault, stopped, kept, -⟩ := tells.failed success
      have untransformed : attempt.transformed = false := by
        rw [transformed, success, Bool.and_false]
      simp [kept, stopped, untransformed]
  | true =>
      obtain ⟨unstopped, -⟩ := tells.succeeded success
      cases transformed : attempt.transformed with
      | true => simp [tells.forgotten transformed]
      | false => simp [tells.kept success transformed, unstopped]

/-- Last error and status agree right after a transfer, unless it has delivered
a listing again and left a fault that was kept. -/
theorem agree_iff [Splitter] (tells : attempt.Tells) :
    (attempt.after.lastError = none ↔ attempt.after.ShowsSuccess)
      ↔ (attempt.success = true → attempt.transformed = false →
        attempt.before.lastError = none) := by
  cases success : attempt.success with
  | false =>
      obtain ⟨fault, -, kept, shown⟩ := tells.failed success
      have noSuccess : ¬attempt.after.ShowsSuccess := by
        rintro ⟨status, same, isSuccess⟩
        rw [shown] at same
        obtain rfl := Option.some.inj same
        exact nomatch isSuccess
      simp [kept, noSuccess]
  | true =>
      obtain ⟨-, shown⟩ := tells.succeeded success
      cases transformed : attempt.transformed with
      | true => simp [tells.forgotten transformed, shown]
      | false => simp [tells.kept success transformed, shown]

end Attempt.Tells

namespace Session

variable {settings : Settings} {source : Source} {sink : Sink} {desk : Desk}
  {presenter : Option Presenter} {start session : Session}
  {history : List Attempt}

/-- A session that has kept no fault at first keeps the last one, in each of its
runs. -/
theorem Run.lastError [Splitter] (clear : start.lastError = none)
    (run : Run Rearranged start history session) :
    session.lastError = (lastFault? history).map Fault.report := by
  induction run with
  | start => exact clear
  | attempt _ stepped induction =>
      have kept := (tells_of_ends (ends_of_step stepped)).lastError_eq
      rw [lastFault?_append]
      refine kept.trans ?_
      split
      · rfl
      · rw [induction, Option.map_or]
  | change _ changed induction =>
      obtain ⟨source, sink, desk, rfl⟩ := changed
      exact induction

/-- In every run, whatever becomes of source, sink and desk, a session keeps the
report of the last failure since the last transformation that succeeded.  Each
transfer ends with a verdict: if it fails, its fault is kept and its message
shown, and if it succeeds, the status is good news.  Afterwards there is no last
error exactly if the status is good news, unless the transfer has delivered a
listing again and a failure is kept. -/
theorem lastError_of_run [Splitter]
    (accepted : Session.start settings source sink desk presenter = .ok start)
    (run : Run Rearranged start history session) :
    session.lastError = (lastFault? history).map Fault.report
      ∧ ∀ move : Move, ∃ next success,
        session.step move.action = (next, .verdict success)
          ∧ Attempt.Tells ⟨move, session, next, success⟩
          ∧ ((next.lastError = none ↔ next.ShowsSuccess)
            ↔ (success = true → move = .copyResult →
              lastFault? history = none)) := by
  have clear : start.lastError = none :=
    congrArg Session.lastError (eq_of_start accepted).2
  have kept := run.lastError clear
  refine ⟨kept, ?_⟩
  intro move
  obtain ⟨next, success, stepped, ends⟩ := session.exists_ends move
  have tells := tells_of_ends ends
  refine ⟨next, success, stepped, tells, tells.agree_iff.trans ?_⟩
  have sameNone : session.lastError = none ↔ lastFault? history = none := by
    rw [kept, Option.map_eq_none_iff]
  cases success with
  | false => simp
  | true => cases move <;> simp [Attempt.transformed, sameNone]

/-- The small session, once transformed, with a source in which there is no
script. -/
def smallDrained : Session :=
  { smallListed with source := .memory "memory" none none }

/-- The session after it has looked for a script there. -/
def smallFailed : Session := smallDrained.quiet.transform.1

/-- A failure is still kept when the listing is delivered again, although the
status is good news. -/
theorem lastError_of_run_of_smallFailed :
    ∃ copied,
      smallFailed.step Move.copyResult.action = (copied, .verdict true)
        ∧ copied.ShowsSuccess
        ∧ copied.lastError = some (emptyFault smallDrained.source).report := by
  have changed : Rearranged smallListed smallDrained :=
    ⟨_, smallListed.sink, smallListed.desk, rfl⟩
  have failed : smallDrained.step Move.transform.action
      = (smallFailed, .verdict false) := by
    rfl
  have delivered : smallFailed.step Move.copyResult.action
      = (smallFailed.quiet.copyResult.1, .verdict true) :=
    step_copyResult (by decide +kernel)
  have second := Run.attempt (Run.change run_smallListed changed) failed
  obtain ⟨kept, tells⟩ := lastError_of_run start_nil second
  obtain ⟨copied, success, stepped, told, -⟩ := tells .copyResult
  rw [delivered] at stepped
  cases stepped
  refine ⟨_, delivered, (told.succeeded rfl).2, ?_⟩
  exact (told.kept rfl rfl).trans kept

end Session

end SchemaSheet
