import SchemaSheet.Proofs.Transfer.Move

/-!
# Runs of a session

A run is a sequence of transfers, between which something else may happen to
the session: its source and its sink may be replaced, for example.  What may
happen is a parameter, and the transfers made on the way are a history.
-/

namespace SchemaSheet

/-- A transfer that has been made, with the sessions before and after it. -/
structure Attempt where
  move : Move
  before : Session
  after : Session
  success : Bool

namespace Session

/-- A run from one session to another, with the transfers made on the way.
Between them, sessions change as `change` allows. -/
inductive Run [Splitter] (change : Session → Session → Prop) (start : Session) :
    List Attempt → Session → Prop where
  | start : Run change start [] start
  | attempt {history : List Attempt} {session next : Session} {move : Move}
      {success : Bool} (run : Run change start history session)
      (stepped : session.step move.action = (next, .verdict success)) :
      Run change start (history ++ [⟨move, session, next, success⟩]) next
  | change {history : List Attempt} {session next : Session}
      (run : Run change start history session)
      (changed : change session next) : Run change start history next

namespace Run

variable {change other : Session → Session → Prop} {start session : Session}
  {history : List Attempt}

variable [Splitter]

theorem mono (weaker : ∀ {session next}, change session next →
    other session next) (run : Run change start history session) :
    Run other start history session := by
  induction run with
  | start => exact .start
  | attempt _ stepped induction => exact .attempt induction stepped
  | change _ changed induction => exact .change induction (weaker changed)

/-- Each transfer of a history begins at a session that a run leads to. -/
theorem exists_of_mem {attempt : Attempt}
    (run : Run change start history session) (member : attempt ∈ history) :
    ∃ earlier, Run change start earlier attempt.before
      ∧ attempt.before.step attempt.move.action
        = (attempt.after, .verdict attempt.success) := by
  induction run with
  | start => exact absurd member List.not_mem_nil
  | attempt run stepped induction =>
      rcases List.mem_append.mp member with earlier | last
      · exact induction earlier
      · obtain rfl := List.mem_singleton.mp last
        exact ⟨_, run, stepped⟩
  | change _ _ induction => exact induction member

end Run

/-- The sessions differ in nothing but their source, their sink, and the desk
that these share. -/
def Rearranged (session next : Session) : Prop :=
  ∃ source sink desk, next = { session with source, sink, desk }

/-- The openings and the style of a session are what its settings say. -/
structure Obeys (settings : Settings) (session : Session) : Prop where
  openings : Settings.openings settings = .ok session.openings
  style : session.style = Settings.style settings

section Start

variable {settings : Settings} {source : Source} {sink : Sink} {desk : Desk}
  {presenter : Option Presenter} {start session : Session}
  {history : List Attempt}

theorem eq_of_start
    (accepted : Session.start settings source sink desk presenter
      = .ok start) :
    Settings.openings settings = .ok start.openings
      ∧ start =
        { openings := start.openings
          style := Settings.style settings
          source
          sink
          desk
          presenter := presenter.getD
            (.start (Settings.isOn settings Settings.previewKey))
          result := []
          table := none
          lastError := none
          journal := [] } := by
  unfold Session.start at accepted
  cases read : Settings.openings settings with
  | error fault =>
      rw [read] at accepted
      exact nomatch accepted
  | ok openings =>
      rw [read] at accepted
      obtain rfl := Except.ok.inj accepted
      exact ⟨rfl, rfl⟩

theorem Run.obeys [Splitter]
    (accepted : Session.start settings source sink desk presenter = .ok start)
    (run : Run Rearranged start history session) :
    Obeys settings session := by
  induction run with
  | start =>
      obtain ⟨read, started⟩ := eq_of_start accepted
      exact ⟨read, congrArg Session.style started⟩
  | attempt _ stepped induction =>
      have steady := (ends_of_step stepped).steady
      exact
        { openings := by
            rw [steady.openings]
            exact induction.openings
          style := steady.style.trans induction.style }
  | change _ changed induction =>
      obtain ⟨source, sink, desk, rfl⟩ := changed
      exact { induction with }

end Start

end Session

end SchemaSheet
