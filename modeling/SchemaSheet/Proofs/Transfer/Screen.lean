import SchemaSheet.Proofs.Transfer.Move

/-!
# What a transfer shows

A transfer writes one line to the screen, its status, which is good or bad as
the transfer went.  Only a transformation that succeeds writes more: a preview
of its listing, where previews are wanted.
-/

namespace SchemaSheet

/-- The line that shows a status. -/
def Status.line (status : Status) : Text :=
  status.kind.sign ++ " " ++ status.message ++ "\n"

/-- Whether the status of a transfer is good or bad news. -/
def StatusKind.ofVerdict (success : Bool) : StatusKind :=
  if success then .success else .error

namespace Presenter

/-- The lines that show a preview. -/
def framed (content : Text) : Text :=
  rule ++ "\n" ++ content ++ "\n" ++ rule ++ "\n"

theorem screen_showStatus (presenter : Presenter) (status : Status) :
    (presenter.showStatus status).screen = presenter.screen ++ status.line := by
  simp [showStatus, writeLine, Status.line]

theorem screen_showPreview (presenter : Presenter) (content : Text) :
    (presenter.showPreview content).screen = presenter.screen
      ++ if presenter.previews then framed content else [] := by
  unfold showPreview
  split
  · simp [writeLine, framed]
  · simp

theorem status_showPreview (presenter : Presenter) (content : Text) :
    (presenter.showPreview content).status = presenter.status := by
  unfold showPreview
  split
  · rfl
  · rfl

end Presenter

namespace Session

/-- The screen shows the status of a transfer, and behind it, if the transfer
went well and `previews` says so, the listing that the session keeps. -/
def Shows (session : Session) (success previews : Bool) : Prop :=
  ∃ status : Status, session.presenter.status = some status
    ∧ status.kind = .ofVerdict success
    ∧ session.presenter.screen = status.line
      ++ if success && previews then Presenter.framed session.result else []

variable {session next : Session} {move : Move} {success previews : Bool}

theorem shows_fail (clear : session.presenter.screen = []) (fault : Fault) :
    (session.fail fault).Shows false previews := by
  refine ⟨⟨fault.report.message, .error⟩, rfl, rfl, ?_⟩
  unfold fail note
  simp [Presenter.screen_showStatus, clear]

theorem shows_copied (clear : session.presenter.screen = []) :
    session.copied.Shows true false := by
  refine ⟨_, rfl, rfl, ?_⟩
  unfold copied
  simp [Presenter.screen_showStatus, clear]

theorem shows_commit (clear : session.presenter.screen = []) (table : Table)
    (listing : Text) :
    (session.commit table listing).Shows true session.presenter.previews := by
  refine ⟨_, Presenter.status_showPreview _ listing, rfl, ?_⟩
  unfold commit note
  simp only [Presenter.screen_showPreview, Presenter.screen_showStatus, clear,
    List.nil_append]
  rfl

/-- What is shown behind the sink: the fault of the sink, or what is kept.  The
sink shows nothing. -/
theorem shows_settle {keep : Session → Session}
    (clear : session.presenter.screen = []) (listing : Text)
    (kept : ∀ next, next.presenter = session.presenter →
      (keep next).Shows true previews) :
    (Move.settle keep (session.deliver listing)).1.Shows
      (Move.settle keep (session.deliver listing)).2 previews := by
  have same : (session.deliver listing).1.presenter = session.presenter := rfl
  generalize session.deliver listing = outcome at *
  obtain ⟨delivered, fault⟩ := outcome
  cases fault with
  | none => exact kept delivered same
  | some fault => exact shows_fail (same ▸ clear) fault

theorem shows_transformText [Splitter] (clear : session.presenter.screen = [])
    (script : Text) :
    (session.transformText script).1.Shows (session.transformText script).2
      session.presenter.previews := by
  rw [transformText_eq]
  cases Table.parse session.openings (some script) with
  | error fault => exact shows_fail clear fault.fault
  | ok table =>
      have noted : (session.note (Table.parseEvents session.openings
          (some script))).presenter.screen = [] := clear
      have kept (next : Session)
          (same : next.presenter = session.presenter) :
          (next.commit table (table.listing session.style)).Shows true
            session.presenter.previews := by
        rw [← same] at clear ⊢
        exact shows_commit clear table _
      have settled := shows_settle noted (table.listing session.style) kept
      exact settled

/-- A session that has fetched a script and shows nothing. -/
def opened (session : Session) : Session :=
  { session with
    source := (session.source.fetch session.desk).2
    presenter := session.presenter.hideStatus.hidePreview }

theorem transform_eq [Splitter] (session : Session) :
    session.transform
      = match session.fetched with
        | .error fault => (session.opened.fail fault, false)
        | .ok none =>
            (session.opened.fail (emptyFault session.opened.source), false)
        | .ok (some script) =>
            if Text.isBlankText script then
              (session.opened.fail (emptyFault session.opened.source), false)
            else session.opened.transformText script := by
  rfl

theorem shows_transform [Splitter] (clear : session.presenter.screen = []) :
    session.transform.1.Shows session.transform.2
      session.presenter.previews := by
  have opened : session.opened.presenter.screen = [] := clear
  rw [transform_eq]
  split
  · exact shows_fail opened _
  · exact shows_fail opened _
  · split
    · exact shows_fail opened _
    · exact shows_transformText opened _

theorem shows_copyResult (clear : session.presenter.screen = []) :
    session.copyResult.1.Shows session.copyResult.2 false := by
  rw [copyResult_eq]
  split
  · exact shows_fail clear _
  · refine shows_settle clear _ ?_
    intro delivered same
    exact shows_copied (same ▸ clear)

/-- The screen after a transfer shows its status, and the listing of a
transformation. -/
theorem shows_of_step [Splitter]
    (stepped : session.step move.action = (next, .verdict success)) :
    next.Shows success
      (session.presenter.previews && decide (move = .transform)) := by
  cases move with
  | transform =>
      have shown := session.quiet.shows_transform rfl
      obtain ⟨rfl, verdict⟩ := Prod.mk.inj stepped
      obtain rfl := Answer.verdict.inj verdict
      rw [decide_eq_true rfl, Bool.and_true]
      exact shown
  | copyResult =>
      have shown := session.quiet.shows_copyResult rfl
      obtain ⟨rfl, verdict⟩ := Prod.mk.inj stepped
      obtain rfl := Answer.verdict.inj verdict
      rw [decide_eq_false nofun, Bool.and_false]
      exact shown

end Session

end SchemaSheet
