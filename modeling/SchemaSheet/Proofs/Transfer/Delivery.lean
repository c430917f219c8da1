import Mathlib.Data.List.Basic
import SchemaSheet.Proofs.Files.Writing
import SchemaSheet.Proofs.Transfer.Recall

/-!
# What sinks receive

Each transfer that succeeds hands the sink one text, which is the result of the
session from then on; a transfer that fails hands it none.  A file holds the
last text handed over.  It survives a transfer that fails, unless that transfer
had a text to deliver: the file is emptied before it is noticed that the text
cannot be encoded, written or closed.  In the same way the standard output may
have taken a text, or a part of it, before it fails.
-/

namespace SchemaSheet

/-- The text with the line feed that the standard output adds to it. -/
def Text.asLine (text : Text) : Text := text ++ "\n"

theorem StreamCalls.print_of_taken {calls : StreamCalls} {text : Text}
    (taken : (calls.print text).2 = none) : (calls.print text).1 = text := by
  unfold print at taken ⊢
  split
  · next failed =>
      rw [failed] at taken
      cases taken
  · rfl

namespace Sink

/-- The sink as it is if no call to it fails. -/
def working : Sink → Sink
  | memory name delivered _ => memory name delivered none
  | standardOutput received _ => standardOutput received .sound
  | file path => file path
  | clipboard => clipboard

/-- What a sink prints when it is asked to take a text. -/
def printed (sink : Sink) (text : Text) : Text :=
  match sink with
  | standardOutput _ calls => (calls.print text.asLine).1
  | _ => []

/-- The sink after it has taken the texts, or printed what it prints.  What
files and the clipboard take is kept elsewhere. -/
def supplied (sink : Sink) (texts : List Text) (printed : Text) : Sink :=
  match sink with
  | memory name delivered fault => memory name (delivered ++ texts) fault
  | standardOutput received calls => standardOutput (received ++ printed) calls
  | file path => file path
  | clipboard => clipboard

theorem supplied_nil (sink : Sink) : sink.supplied [] [] = sink := by
  cases sink with
  | memory name delivered fault => simp [supplied]
  | standardOutput received calls => simp [supplied]
  | file path => rfl
  | clipboard => rfl

theorem supplied_append (sink : Sink) (texts later : List Text)
    (printed more : Text) :
    sink.supplied (texts ++ later) (printed ++ more)
      = (sink.supplied texts printed).supplied later more := by
  cases sink with
  | memory name delivered fault => simp [supplied]
  | standardOutput received calls => simp [supplied]
  | file path => rfl
  | clipboard => rfl

variable {sink : Sink} {texts : List Text} {shown : Text}

theorem eq_memory_of_working {name : Text} {old : List Text}
    {fault : Option Fault}
    (same : sink.working
      = (Sink.memory name old fault).working.supplied texts shown) :
    ∃ later, sink = .memory name (old ++ texts) later := by
  cases sink with
  | memory other delivered later =>
      obtain ⟨rfl, rfl, _⟩ := Sink.memory.inj same
      exact ⟨later, rfl⟩
  | standardOutput received calls => cases same
  | file path => cases same
  | clipboard => cases same

theorem eq_standardOutput_of_working {old : Text} {calls : StreamCalls}
    (same : sink.working
      = (Sink.standardOutput old calls).working.supplied texts shown) :
    ∃ later, sink = .standardOutput (old ++ shown) later := by
  cases sink with
  | memory name delivered later => cases same
  | standardOutput received later =>
      obtain ⟨rfl, _⟩ := Sink.standardOutput.inj same
      exact ⟨later, rfl⟩
  | file path => cases same
  | clipboard => cases same

theorem eq_file_of_working {path : Path}
    (same : sink.working = (Sink.file path).working.supplied texts shown) :
    sink = .file path := by
  cases sink with
  | memory name delivered later => cases same
  | standardOutput received calls => cases same
  | file other => exact congrArg Sink.file (Sink.file.inj same)
  | clipboard => cases same

variable {desk : Desk} {path : Path} {text : Text}

/-- A sink has the text more that it takes, and what it prints. -/
theorem working_deliver (sink : Sink) (desk : Desk) (text : Text) :
    (sink.deliver desk text).sink.working
      = sink.working.supplied
        (if (sink.deliver desk text).fault.isNone then [text] else [])
        (sink.printed text) := by
  cases sink with
  | memory name delivered raised =>
      cases raised with
      | none => rfl
      | some fault => exact (supplied_nil _).symm
  | standardOutput received calls => rfl
  | file path => rfl
  | clipboard => rfl

theorem deliver_standardOutput (received : Text) (calls : StreamCalls)
    (desk : Desk) (text : Text) :
    (standardOutput received calls).deliver desk text
      = { sink :=
            standardOutput (received ++ (calls.print text.asLine).1) calls
          desk
          events := []
          fault := (calls.print text.asLine).2.map
            (CallFault.fault outputFault) } := by
  rfl

theorem rewrites_deliverFile_of_taken
    (taken : (deliverFile desk path text).fault = none) :
    ∃ octets, Utf8.encode .strict text = .ok octets
      ∧ desk.files.Rewrites path octets
        (deliverFile desk path text).desk.files :=
  Disk.write_of_taken (Option.map_eq_none_iff.mp taken)

/-- A file that refuses a text leaves the desk alone, unless it is damaged. -/
theorem desk_deliverFile_of_rejected
    (rejected : (deliverFile desk path text).fault ≠ none)
    (sound : ∀ octets, ¬desk.toDisk.Damages path text octets) :
    (deliverFile desk path text).desk = desk := by
  have files : (deliverFile desk path text).desk.files = desk.files :=
    Disk.write_of_rejected (rejected ∘ Option.map_eq_none_iff.mpr) sound
  exact congrArg (fun files => { desk with files }) files

theorem deliverFile_of_damages {octets : List UInt8}
    (damages : desk.toDisk.Damages path text octets) :
    (deliverFile desk path text).fault ≠ none
      ∧ desk.files.Rewrites path octets
        (deliverFile desk path text).desk.files := by
  obtain ⟨rejected, rewrites⟩ := damages.write
  exact ⟨rejected ∘ Option.map_eq_none_iff.mp, rewrites⟩

end Sink

namespace Session

/-- The sessions differ in their source, their desk, and whether their sink
works. -/
def Refitted (session next : Session) : Prop :=
  ∃ source sink desk, sink.working = session.sink.working
    ∧ next = { session with source, sink, desk }

theorem Refitted.rearranged {session next : Session}
    (changed : Refitted session next) : Rearranged session next := by
  obtain ⟨source, sink, desk, _, rfl⟩ := changed
  exact ⟨source, sink, desk, rfl⟩

variable [Splitter]

/-- A transfer has a text for the file at the path, which is opened for it and
left with the octets when the text fails to reach it. -/
def Damages (session : Session) (move : Move) (path : Path)
    (octets : List UInt8) : Prop :=
  ∃ offer, session.offer move = .ok offer
    ∧ session.desk.toDisk.Damages path offer.listing octets

/-- A transfer has a text for the standard output, which fails after it has
taken what is shown. -/
def Spills (session : Session) (move : Move) (shown : Text) : Prop :=
  ∃ offer received calls reason, session.offer move = .ok offer
    ∧ session.sink = .standardOutput received calls
    ∧ calls.print offer.listing.asLine = (shown, some reason)

end Session

namespace Attempt

/-- The texts that the transfer delivers. -/
def texts (attempt : Attempt) : List Text :=
  if attempt.success then [attempt.after.result] else []

variable [Splitter]

/-- What the transfer prints. -/
def printed (attempt : Attempt) : Text :=
  match attempt.before.offer attempt.move with
  | .error _ => []
  | .ok offer => attempt.before.sink.printed offer.listing

/-- What the transfer prints to the standard output that it delivers to. -/
structure Prints (attempt : Attempt) : Prop where
  whole : attempt.success = true →
    attempt.printed = attempt.after.result.asLine
  silent : attempt.success = false →
    (∀ shown, ¬attempt.before.Spills attempt.move shown) →
    attempt.printed = []
  spilled : ∀ shown, attempt.before.Spills attempt.move shown →
    attempt.success = false ∧ attempt.printed = shown

/-- Where the standard output does not fail, it has the texts as lines. -/
theorem Prints.printed_eq {attempt : Attempt} (prints : attempt.Prints)
    (sound : ∀ shown, ¬attempt.before.Spills attempt.move shown) :
    attempt.printed = attempt.texts.flatMap Text.asLine := by
  cases success : attempt.success with
  | true => simp [texts, success, prints.whole success]
  | false => simp [texts, success, prints.silent success sound]

/-- What the transfer does to the file that it delivers to. -/
structure Files (attempt : Attempt) (path : Path) : Prop where
  written : attempt.success = true →
    ∃ octets, Utf8.encode .strict attempt.after.result = .ok octets
      ∧ attempt.before.desk.files.Rewrites path octets
        attempt.after.desk.files
  kept : attempt.success = false →
    (∀ octets, ¬attempt.before.Damages attempt.move path octets) →
    attempt.after.desk = attempt.before.desk
  damaged : ∀ octets, attempt.before.Damages attempt.move path octets →
    attempt.success = false
      ∧ attempt.before.desk.files.Rewrites path octets
        attempt.after.desk.files

end Attempt

namespace Session

variable {start session next : Session} {history : List Attempt}
  {move : Move} {success : Bool} {path : Path}

section Runs

variable [Splitter]

/-- The sink has one text more after a transfer that succeeds, and none more
after one that fails, and what the transfer prints. -/
theorem working_of_step
    (stepped : session.step move.action = (next, .verdict success)) :
    next.sink.working = session.sink.working.supplied
      (Attempt.texts ⟨move, session, next, success⟩)
      (Attempt.printed ⟨move, session, next, success⟩) := by
  cases offered : session.offer move with
  | error fault =>
      obtain ⟨rfl, sink, -⟩ := idle_of_step offered stepped
      simp only [Attempt.texts, Attempt.printed, offered, sink,
        Bool.false_eq_true, if_false, Sink.supplied_nil]
  | ok offer =>
      have handed := handed_of_step offered stepped
      have worked :=
        Sink.working_deliver session.sink session.desk offer.listing
      have taken := handed.taken
      rw [handed.sink]
      simp only [delivery] at taken ⊢
      cases success with
      | false =>
          simpa [Attempt.texts, Attempt.printed, offered, ← taken] using worked
      | true =>
          simpa [Attempt.texts, Attempt.printed, offered, ← taken,
            handed.result rfl] using worked

/-- The sink has received the texts of the transfers and what they print, in
their order. -/
theorem Run.working_sink (run : Run Refitted start history session) :
    session.sink.working
      = start.sink.working.supplied (history.flatMap Attempt.texts)
        (history.flatMap Attempt.printed) := by
  induction run with
  | start => exact (Sink.supplied_nil _).symm
  | attempt _ stepped induction =>
      rw [working_of_step stepped, induction, ← Sink.supplied_append,
        List.flatMap_append, List.flatMap_singleton, List.flatMap_append,
        List.flatMap_singleton]
  | change _ changed induction =>
      obtain ⟨source, sink, desk, same, rfl⟩ := changed
      exact same.trans induction

theorem prints_of_step {received : Text} {calls : StreamCalls}
    (printing : session.sink = .standardOutput received calls)
    (stepped : session.step move.action = (next, .verdict success)) :
    Attempt.Prints ⟨move, session, next, success⟩ := by
  cases offered : session.offer move with
  | error fault =>
      obtain ⟨rfl, -, -⟩ := idle_of_step offered stepped
      exact
        { whole := by rintro ⟨⟩
          silent := by
            intro _ _
            simp only [Attempt.printed, offered]
          spilled := by
            rintro shown ⟨other, _, _, _, same, _⟩
            cases offered.symm.trans same }
  | ok offer =>
      have handed := handed_of_step offered stepped
      have taken := handed.taken
      rw [delivery, printing, Sink.deliver_standardOutput,
        Option.map_eq_none_iff] at taken
      have printed : Attempt.printed ⟨move, session, next, success⟩
          = (calls.print offer.listing.asLine).1 := by
        simp only [Attempt.printed, offered, printing, Sink.printed]
      exact
        { whole := by
            intro succeeded
            rw [printed, handed.result succeeded]
            exact StreamCalls.print_of_taken (taken.mp succeeded)
          silent := by
            intro failed sound
            have rejected := mt taken.mpr (Bool.eq_false_iff.mp failed)
            obtain ⟨reason, stopped⟩ := Option.ne_none_iff_exists'.mp rejected
            exact absurd ⟨offer, received, calls, reason, offered, printing,
              Prod.ext rfl stopped⟩ (sound _)
          spilled := by
            rintro shown ⟨other, _, _, reason, same, sunk, spilled⟩
            obtain rfl := Except.ok.inj (offered.symm.trans same)
            obtain ⟨_, rfl⟩ := Sink.standardOutput.inj (printing.symm.trans sunk)
            rw [spilled] at printed taken
            exact ⟨Bool.eq_false_iff.mpr (by simp [taken]), printed⟩ }

theorem files_of_step (filed : session.sink = .file path)
    (stepped : session.step move.action = (next, .verdict success)) :
    Attempt.Files ⟨move, session, next, success⟩ path := by
  cases offered : session.offer move with
  | error fault =>
      obtain ⟨rfl, -, desk⟩ := idle_of_step offered stepped
      exact
        { written := by rintro ⟨⟩
          kept := fun _ _ => desk
          damaged := by
            rintro octets ⟨other, same, _⟩
            cases offered.symm.trans same }
  | ok offer =>
      have handed := handed_of_step offered stepped
      have delivery_eq : session.delivery offer
          = Sink.deliverFile session.desk path offer.listing := by
        rw [delivery, filed]
        rfl
      have taken := handed.taken
      have desk := handed.desk
      rw [delivery_eq] at taken desk
      exact
        { written := by
            intro succeeded
            rw [handed.result succeeded, desk]
            exact Sink.rewrites_deliverFile_of_taken (taken.mp succeeded)
          kept := by
            intro failed sound
            have rejected := mt taken.mpr (Bool.eq_false_iff.mp failed)
            exact desk.trans (Sink.desk_deliverFile_of_rejected rejected
              fun octets damages => sound octets ⟨offer, offered, damages⟩)
          damaged := by
            rintro octets ⟨other, same, damages⟩
            obtain rfl := Except.ok.inj (offered.symm.trans same)
            obtain ⟨rejected, rewrites⟩ := Sink.deliverFile_of_damages damages
            rw [desk]
            exact ⟨Bool.eq_false_iff.mpr (mt taken.mp rejected), rewrites⟩ }

/-- In every run, whatever becomes of the source, of the desk and of the calls
to the sink, the sink receives the results of the transfers that succeed, in
their order, and a file holds the last of them.  The text that a transformation
delivers is the listing of the table that its source describes.  Only where a
sink fails after it has begun to take a text, something changes although the
text is not delivered. -/
theorem deliveries_of_run {settings : Settings} {source : Source} {sink : Sink}
    {desk : Desk} {presenter : Option Presenter}
    (accepted : Session.start settings source sink desk presenter = .ok start)
    (run : Run Refitted start history session) :
    (∀ name old fault, sink = .memory name old fault →
      ∃ later, session.sink
        = .memory name (old ++ history.flatMap Attempt.texts) later)
      ∧ (∀ old calls, sink = .standardOutput old calls →
        (∃ later, session.sink
          = .standardOutput (old ++ history.flatMap Attempt.printed) later)
          ∧ (∀ attempt ∈ history, attempt.Prints)
          ∧ ((∀ attempt ∈ history,
              ∀ shown, ¬attempt.before.Spills attempt.move shown) →
            history.flatMap Attempt.printed
              = (history.flatMap Attempt.texts).flatMap Text.asLine))
      ∧ (∀ path, sink = .file path →
        ∀ attempt ∈ history, attempt.Files path)
      ∧ ∀ attempt ∈ history, attempt.success = true →
        attempt.move = .transform →
        ∃ openings script table,
          Settings.openings settings = .ok openings
            ∧ attempt.before.fetched = .ok (some script)
            ∧ Table.parse openings (some script) = .ok table
            ∧ attempt.after.result
              = table.listing (Settings.style settings) := by
  have startSink : start.sink = sink :=
    congrArg Session.sink (eq_of_start accepted).2
  have received := run.working_sink
  rw [startSink] at received
  refine ⟨?_, ?_, ?_, ?_⟩
  · rintro name old fault rfl
    exact Sink.eq_memory_of_working received
  · rintro old calls rfl
    have prints : ∀ attempt ∈ history, attempt.Prints := by
      intro attempt member
      obtain ⟨earlier, reached, stepped⟩ := run.exists_of_mem member
      have printing := reached.working_sink
      rw [startSink] at printing
      obtain ⟨_, printing⟩ := Sink.eq_standardOutput_of_working printing
      exact prints_of_step printing stepped
    refine ⟨Sink.eq_standardOutput_of_working received, prints, ?_⟩
    intro sound
    rw [List.flatMap_assoc]
    refine List.flatMap_congr ?_
    intro attempt member
    exact (prints attempt member).printed_eq (sound attempt member)
  · rintro path rfl attempt member
    obtain ⟨earlier, reached, stepped⟩ := run.exists_of_mem member
    have filed := reached.working_sink
    rw [startSink] at filed
    exact files_of_step (Sink.eq_file_of_working filed) stepped
  · intro attempt member success moved
    obtain ⟨earlier, reached, stepped⟩ := run.exists_of_mem member
    rw [success, moved] at stepped
    obtain ⟨script, table, fetched, parsed, listed⟩ := listed_of_step stepped
    have obeys := (reached.mono Refitted.rearranged).obeys accepted
    rw [obeys.style] at listed
    exact ⟨_, script, table, obeys.openings, fetched, parsed, listed⟩

end Runs

def smallPath : Path := ⟨[], ["out.tsv"]⟩

/-- A desk with an empty file at the small path. -/
def filedDesk : Desk := { emptyDesk with files := [(["out.tsv"], .file [])] }

/-- A session with the usual settings that delivers to a file. -/
def filedStart : Session :=
  { smallStart with sink := .file smallPath, desk := filedDesk }

theorem read_of_one_transformation :
    ∃ next octets, filedStart.step Move.transform.action
        = (next, .verdict true)
      ∧ Utf8.encode .strict next.result = .ok octets
      ∧ next.desk.files.read smallPath = .ok octets := by
  have succeeded : filedStart.step Move.transform.action
      = (filedStart.quiet.transform.1, .verdict true) :=
    step_transform (by decide +kernel)
  have accepted : Session.start [] smallSource (.file smallPath) filedDesk none
      = .ok filedStart := by
    rfl
  have run := Run.attempt
    (Run.start : Run Refitted filedStart [] filedStart) succeeded
  obtain ⟨_, _, filed, _⟩ := deliveries_of_run accepted run
  obtain ⟨octets, encoded, rewrites⟩ :=
    (filed smallPath rfl _ List.mem_cons_self).written rfl
  exact ⟨_, octets, succeeded, encoded, rewrites.read⟩

end Session

end SchemaSheet
