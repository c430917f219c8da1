import SchemaSheet.Proofs.Transfer.Delivery

/-!
# What becomes of the clipboard

The clipboard holds the last text that was handed over to it, unless a transfer
fails halfway.  The clipboard is cleared before it is filled, so that what was
there is gone when it takes no text, and it has taken the text already when a
later call fails.
-/

namespace SchemaSheet

/-- The desk with another text on its clipboard. -/
def Desk.copy (desk : Desk) (text : Text) : Desk :=
  { desk with clipboard := { desk.clipboard with content := text } }

/-- A text is put on the clipboard in vain, and something else is left there
than before. -/
inductive Clipboard.Loses (clipboard : Clipboard) (text : Text) :
    Text → Prop where
  /-- The clipboard is cleared and does not take the text. -/
  | emptied {reason : CallFault} (opened : clipboard.calls.opening = none)
      (cleared : clipboard.calls.clearing = none)
      (refused : clipboard.calls.appending = some reason) :
      Loses clipboard text []
  /-- The clipboard takes the text, and a later call fails. -/
  | filled (opened : clipboard.calls.opening = none)
      (cleared : clipboard.calls.clearing = none)
      (appended : clipboard.calls.appending = none)
      (failed : clipboard.calls.updating ≠ none
        ∨ clipboard.calls.closing ≠ none) :
      Loses clipboard text text

namespace Sink

theorem eq_clipboard_of_working {sink : Sink} {texts : List Text} {shown : Text}
    (same : sink.working = Sink.clipboard.working.supplied texts shown) :
    sink = .clipboard := by
  cases sink with
  | memory name delivered later => cases same
  | standardOutput received calls => cases same
  | file path => cases same
  | clipboard => rfl

variable {found : Clipboard} {text content : Text}

theorem fill_of_appended (cleared : found.calls.clearing = none)
    (appended : found.calls.appending = none) (text : Text) :
    found.fill text = (text, found.calls.updating) := by
  simp only [Clipboard.fill, cleared, appended]

theorem content_fillClipboard (opened : found.calls.opening = none) :
    (fillClipboard found text).1 = (found.fill text).1 := by
  unfold fillClipboard
  simp only [opened]
  split
  · rfl
  · rfl

/-- A clipboard takes a text just if none of the calls to it fails. -/
theorem taken_fillClipboard_iff :
    (fillClipboard found text).2 = none
      ↔ found.calls.opening = none ∧ found.calls.clearing = none
        ∧ found.calls.appending = none ∧ found.calls.updating = none
        ∧ found.calls.closing = none := by
  unfold fillClipboard Clipboard.fill
  cases found.calls.opening with
  | some reason => simp
  | none =>
      cases found.calls.closing with
      | some reason => simp
      | none =>
          cases found.calls.clearing with
          | some reason => simp
          | none =>
              cases found.calls.appending with
              | some reason => simp
              | none => simp

theorem fillClipboard_of_taken (taken : (fillClipboard found text).2 = none) :
    (fillClipboard found text).1 = text := by
  obtain ⟨opened, cleared, appended, -, -⟩ := taken_fillClipboard_iff.mp taken
  rw [content_fillClipboard opened, fill_of_appended cleared appended]

theorem fillClipboard_of_loses (loses : found.Loses text content) :
    (fillClipboard found text).2 ≠ none
      ∧ (fillClipboard found text).1 = content := by
  rw [Ne, taken_fillClipboard_iff]
  cases loses with
  | emptied opened cleared refused =>
      rw [content_fillClipboard opened]
      simp [Clipboard.fill, cleared, refused]
  | filled opened cleared appended failed =>
      rw [content_fillClipboard opened, fill_of_appended cleared appended]
      refine ⟨?_, rfl⟩
      rintro ⟨-, -, -, updated, closed⟩
      exact failed.elim (· updated) (· closed)

/-- A clipboard that refuses a text is left alone, unless it loses what is
there. -/
theorem fillClipboard_of_rejected
    (rejected : (fillClipboard found text).2 ≠ none)
    (sound : ∀ content, ¬found.Loses text content) :
    (fillClipboard found text).1 = found.content := by
  cases opened : found.calls.opening with
  | some reason => simp only [fillClipboard, opened]
  | none =>
      rw [content_fillClipboard opened]
      cases cleared : found.calls.clearing with
      | some reason => simp only [Clipboard.fill, cleared]
      | none =>
          cases appended : found.calls.appending with
          | some reason =>
              exact absurd (.emptied opened cleared appended) (sound [])
          | none =>
              refine absurd (.filled opened cleared appended ?_) (sound text)
              cases updated : found.calls.updating with
              | some reason => exact .inl (Option.some_ne_none reason)
              | none =>
                  refine .inr fun closed => rejected ?_
                  exact taken_fillClipboard_iff.mpr
                    ⟨opened, cleared, appended, updated, closed⟩

theorem deliver_clipboard (desk : Desk) (text : Text) :
    clipboard.deliver desk text
      = { sink := clipboard
          desk := desk.copy (fillClipboard desk.clipboard text).1
          events := []
          fault := (fillClipboard desk.clipboard text).2 } := by
  rfl

end Sink

namespace Session

/-- A transfer has a text for the clipboard, which fails to take it and is left
with the content. -/
def Loses [Splitter] (session : Session) (move : Move) (content : Text) :
    Prop :=
  ∃ offer, session.offer move = .ok offer
    ∧ session.desk.clipboard.Loses offer.listing content

/-- The sessions differ in their source and in their desk, which has the same
text on its clipboard. -/
def Untouched (session next : Session) : Prop :=
  ∃ source desk, desk.clipboard.content = session.desk.clipboard.content
    ∧ next = { session with source, desk }

theorem Untouched.refitted {session next : Session}
    (changed : Untouched session next) :
    Refitted session next := by
  obtain ⟨source, desk, _, rfl⟩ := changed
  exact ⟨source, session.sink, desk, rfl, rfl⟩

end Session

/-- What the transfer does to the clipboard that it delivers to. -/
structure Attempt.Copies [Splitter] (attempt : Attempt) : Prop where
  written : attempt.success = true →
    attempt.after.desk = attempt.before.desk.copy attempt.after.result
  kept : attempt.success = false →
    (∀ content, ¬attempt.before.Loses attempt.move content) →
    attempt.after.desk = attempt.before.desk
  lost : ∀ content, attempt.before.Loses attempt.move content →
    attempt.success = false
      ∧ attempt.after.desk = attempt.before.desk.copy content

namespace Session

variable {start session next : Session} {history : List Attempt}
  {move : Move} {success : Bool}

section Runs

variable [Splitter]

theorem copies_of_step (copying : session.sink = .clipboard)
    (stepped : session.step move.action = (next, .verdict success)) :
    Attempt.Copies ⟨move, session, next, success⟩ := by
  cases offered : session.offer move with
  | error fault =>
      obtain ⟨rfl, -, desk⟩ := idle_of_step offered stepped
      exact
        { written := by rintro ⟨⟩
          kept := fun _ _ => desk
          lost := by
            rintro content ⟨other, same, _⟩
            cases offered.symm.trans same }
  | ok offer =>
      have handed := handed_of_step offered stepped
      have taken := handed.taken
      have desk := handed.desk
      rw [delivery, copying, Sink.deliver_clipboard] at taken desk
      exact
        { written := by
            intro succeeded
            have filled := Sink.fillClipboard_of_taken (taken.mp succeeded)
            rw [desk, filled, handed.result succeeded]
          kept := by
            intro failed sound
            have rejected := mt taken.mpr (Bool.eq_false_iff.mp failed)
            have left := Sink.fillClipboard_of_rejected rejected
              fun content loses => sound content ⟨offer, offered, loses⟩
            rw [desk, left]
            rfl
          lost := by
            rintro content ⟨other, same, loses⟩
            obtain rfl := Except.ok.inj (offered.symm.trans same)
            obtain ⟨rejected, left⟩ := Sink.fillClipboard_of_loses loses
            rw [desk, left]
            exact ⟨Bool.eq_false_iff.mpr (mt taken.mp rejected), rfl⟩ }

theorem Run.sink_eq_clipboard (copying : start.sink = .clipboard)
    (run : Run Untouched start history session) :
    session.sink = .clipboard := by
  have received := (run.mono Untouched.refitted).working_sink
  rw [copying] at received
  exact Sink.eq_clipboard_of_working received

/-- Unless one of the transfers has lost it, the clipboard holds the last text
that has been delivered, or what was there before there was one. -/
theorem Run.content_clipboard (copying : start.sink = .clipboard)
    (run : Run Untouched start history session)
    (sound : ∀ attempt ∈ history,
      ∀ content, ¬attempt.before.Loses attempt.move content) :
    session.desk.clipboard.content
      = (history.flatMap Attempt.texts).getLast?.getD
        start.desk.clipboard.content := by
  induction run with
  | start => rfl
  | attempt run stepped induction =>
      rename_i history session next move success
      have earlier := induction fun attempt member =>
        sound attempt (List.mem_append_left _ member)
      have last := sound ⟨move, session, next, success⟩
        (List.mem_append_right _ List.mem_cons_self)
      have copies := copies_of_step (run.sink_eq_clipboard copying) stepped
      rw [List.flatMap_append, List.flatMap_singleton]
      cases success with
      | true =>
          rw [copies.written rfl]
          simp [Attempt.texts, Desk.copy]
      | false =>
          rw [copies.kept rfl last, earlier]
          simp [Attempt.texts]
  | change _ changed induction =>
      obtain ⟨source, desk, same, rfl⟩ := changed
      exact same.trans (induction sound)

/-- In every run, whatever becomes of source, sink and desk, a transfer that
delivers to the clipboard fills it with its result, or fails and leaves all as
it was, unless it has a listing and one of the calls to the clipboard fails
after it has been cleared.  If nothing but transfers changes what is on the
clipboard and none of them loses it, the last text that was delivered stays. -/
theorem clipboard_of_run (start : Session) :
    (∀ history session, Run Rearranged start history session →
      ∀ attempt ∈ history, attempt.before.sink = .clipboard →
        attempt.Copies)
      ∧ ∀ history session, start.sink = .clipboard →
        Run Untouched start history session →
          (∀ attempt ∈ history,
            ∀ content, ¬attempt.before.Loses attempt.move content) →
            session.desk.clipboard.content
              = (history.flatMap Attempt.texts).getLast?.getD
                start.desk.clipboard.content := by
  refine ⟨?_, ?_⟩
  · intro history session run attempt member copying
    obtain ⟨_, _, stepped⟩ := run.exists_of_mem member
    exact copies_of_step copying stepped
  · intro history session copying run sound
    exact run.content_clipboard copying sound

end Runs

/-- A session with the usual settings that delivers to the clipboard. -/
def copyingStart : Session := { smallStart with sink := .clipboard }

/-- The calls to a clipboard that takes no text. -/
def lockedCalls : ClipboardCalls :=
  { ClipboardCalls.sound with
    appending := some ⟨"TclError", "clipboard locked", false⟩ }

/-- The session after its clipboard has been locked. -/
def locked (session : Session) : Session :=
  (session.act (.changeClipboard none (some lockedCalls))).1

theorem untouched_locked (session : Session) :
    Untouched session session.locked :=
  ⟨session.source, session.locked.desk, rfl, rfl⟩

theorem offer_copyResult [Splitter] {session : Session}
    (filled : session.result ≠ []) :
    session.offer .copyResult = .ok ⟨session.result, session.table⟩ := by
  simp [offer, filled]

/-- A result that has been copied is lost when it is copied again while the
clipboard is locked. -/
theorem clipboard_of_run_of_locked :
    ∃ copied cleared,
      copyingStart.step Move.transform.action = (copied, .verdict true)
        ∧ copied.result ≠ []
        ∧ copied.desk.clipboard.content = copied.result
        ∧ copied.locked.step Move.copyResult.action
          = (cleared, .verdict false)
        ∧ cleared.desk.clipboard.content = [] := by
  obtain ⟨copied, succeeded⟩ : ∃ copied,
      copyingStart.step Move.transform.action = (copied, .verdict true) :=
    ⟨_, step_transform (by decide +kernel)⟩
  have filled := result_ne_nil_of_step succeeded
  have first := Run.attempt
    (Run.start : Run Untouched copyingStart [] copyingStart) succeeded
  have second := Run.change first (untouched_locked copied)
  have rearranged {session next : Session}
      (changed : Untouched session next) : Rearranged session next :=
    changed.refitted.rearranged
  obtain ⟨copies, -⟩ := clipboard_of_run copyingStart
  have written := (copies _ _ (first.mono rearranged) _ List.mem_cons_self
    rfl).written rfl
  obtain ⟨cleared, success, stepped, _⟩ :=
    copied.locked.exists_ends .copyResult
  have loses : copied.locked.Loses .copyResult [] :=
    ⟨_, offer_copyResult filled, .emptied rfl rfl rfl⟩
  have third := (Run.attempt second stepped).mono rearranged
  obtain ⟨failure, lost⟩ := (copies _ _ third _
    (List.mem_append_right _ List.mem_cons_self)
    (second.sink_eq_clipboard rfl)).lost [] loses
  exact ⟨copied, cleared, succeeded, filled,
    congrArg (fun desk => desk.clipboard.content) written,
    failure ▸ stepped, congrArg (fun desk => desk.clipboard.content) lost⟩

end Session

end SchemaSheet
