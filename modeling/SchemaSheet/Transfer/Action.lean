import SchemaSheet.Transfer.Session

/-!
# Actions

What can be done with a session: the two transfers, direct use of its source
and sink, changes of source, sink and clipboard, and direct use of its
presenter.
-/

namespace SchemaSheet

/-- Something done with a session.  A change leaves alone what it does not
mention. -/
inductive Action where
  | transform
  | copyResult
  | read
  | write (text : Text)
  | replaceSource (source : Source)
  | changeSource (text : Option (Option Text))
      (fault : Option (Option Fault))
  | changeSink (fault : Option (Option Fault))
  | changeClipboard (content : Option Text) (calls : Option ClipboardCalls)
  | showStatus (message kind : Text)
  | hideStatus
  | showPreview (content : Text)
  | hidePreview

inductive Answer where
  | verdict (success : Bool)
  | text (text : Option Text)
  | nothing
  | failure (fault : Fault)

namespace Source

def change (source : Source) (text : Option (Option Text))
    (fault : Option (Option Fault)) : Source :=
  match source with
  | memory name oldText oldFault =>
      memory name (text.getD oldText) (fault.getD oldFault)
  | _ => source

end Source

namespace Sink

def change (sink : Sink) (fault : Option (Option Fault)) : Sink :=
  match sink with
  | memory name delivered oldFault =>
      memory name delivered (fault.getD oldFault)
  | _ => sink

end Sink

namespace Session

def quiet (session : Session) : Session :=
  { session with
    journal := []
    presenter := { session.presenter with screen := [] } }

def showStatus (session : Session) (message kind : Text) :
    Session × Answer :=
  match StatusKind.ofName? kind with
  | some kind =>
      ({ session with
          presenter := session.presenter.showStatus ⟨message, kind⟩ },
        .nothing)
  | none =>
      (session, .failure (.foreign SettingsFault.valueKind
        (kind.display ++ " is not a valid StatusKind")))

def act [Splitter] (session : Session) : Action → Session × Answer
  | .transform =>
      let (session, success) := session.transform
      (session, .verdict success)
  | .copyResult =>
      let (session, success) := session.copyResult
      (session, .verdict success)
  | .read =>
      let (fetched, source) := session.source.fetch session.desk
      ({ session with source },
        match fetched with
        | .ok text => .text text
        | .error fault => .failure fault)
  | .write text =>
      let (session, fault) := session.deliver text
      (session, match fault with
        | some fault => .failure fault
        | none => .nothing)
  | .replaceSource source => ({ session with source }, .nothing)
  | .changeSource text fault =>
      ({ session with source := session.source.change text fault }, .nothing)
  | .changeSink fault =>
      ({ session with sink := session.sink.change fault }, .nothing)
  | .changeClipboard content calls =>
      let old := session.desk.clipboard
      let clipboard := ⟨content.getD old.content, calls.getD old.calls⟩
      ({ session with desk := { session.desk with clipboard } }, .nothing)
  | .showStatus message kind => session.showStatus message kind
  | .hideStatus =>
      ({ session with presenter := session.presenter.hideStatus }, .nothing)
  | .showPreview content =>
      ({ session with presenter := session.presenter.showPreview content },
        .nothing)
  | .hidePreview =>
      ({ session with presenter := session.presenter.hidePreview }, .nothing)

/-- One step of a session.  The screen and the journal afterwards are those of
this step alone. -/
def step [Splitter] (session : Session) (action : Action) :
    Session × Answer :=
  session.quiet.act action

end Session

end SchemaSheet
