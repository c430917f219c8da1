import SchemaSheet.Settings
import SchemaSheet.Table.Parse
import SchemaSheet.Transfer.Endpoint
import SchemaSheet.Transfer.Presenter

/-!
# Sessions

A session moves descriptions of tables from a source to a sink, as listings.
It keeps the last listing, which can be delivered again, and the last failure.
No failure leaves a session; each is shown to the user instead.
-/

namespace SchemaSheet

structure Session where
  openings : List Opening
  style : ListingStyle
  source : Source
  sink : Sink
  desk : Desk
  presenter : Presenter
  /-- The last listing; empty before the first one. -/
  result : Text
  table : Option Table
  /-- The failure of the last transfer that did not succeed, unless a later
  transformation did. -/
  lastError : Option Report
  journal : List Event

namespace Session

/-- A new session.  The presenter shows previews according to the settings
unless there is one already. -/
def start (settings : Settings) (source : Source) (sink : Sink) (desk : Desk)
    (presenter : Option Presenter) : Except SettingsFault Session :=
  (Settings.openings settings).map fun openings =>
    { openings
      style := Settings.style settings
      source
      sink
      desk
      presenter := presenter.getD
        (.start (Settings.isOn settings Settings.previewKey))
      result := []
      table := none
      lastError := none
      journal := [] }

def note (session : Session) (events : List Event) : Session :=
  { session with journal := session.journal ++ events }

/-- Shows a failure and keeps it. -/
def fail (session : Session) (fault : Fault) : Session :=
  let report := fault.report
  { session.note [.transferFailed report.code] with
    lastError := some report
    presenter := session.presenter.showStatus ⟨report.message, .error⟩ }

def emptyFault (source : Source) : Fault :=
  let name : Text := if source.name.isEmpty then "input" else source.name
  .emptyInput (name ++ " is empty, copy a DDL statement first")

def deliver (session : Session) (text : Text) : Session × Option Fault :=
  let delivery := session.sink.deliver session.desk text
  ({ session.note delivery.events with
      sink := delivery.sink
      desk := delivery.desk },
    delivery.fault)

/-- Keeps a listing that has been delivered and shows it. -/
def commit (session : Session) (table : Table) (listing : Text) : Session :=
  let sink := session.sink.name
  let count := table.columns.length
  let message : Text :=
    "Converted and written to " ++ sink ++ " (table: "
      ++ table.name ++ ", " ++ Text.ofNat count ++ " columns)"
  { session.note [.tableDelivered table.name count sink] with
    result := listing
    table := some table
    lastError := none
    presenter :=
      (session.presenter.showStatus ⟨message, .success⟩).showPreview listing }

/-- Reads a script, lists its table, and delivers the listing. -/
def transformText [Splitter] (session : Session) (script : Text) :
    Session × Bool :=
  let session := session.note
    (Table.parseEvents session.openings (some script))
  match Table.parse session.openings (some script) with
  | .error fault => (session.fail fault.fault, false)
  | .ok table =>
      let listing := table.listing session.style
      match session.deliver listing with
      | (session, some fault) => (session.fail fault, false)
      | (session, none) => (session.commit table listing, true)

/-- Fetches a script and transforms it.  Tells whether all went well. -/
def transform [Splitter] (session : Session) : Session × Bool :=
  let (fetched, source) := session.source.fetch session.desk
  let session :=
    { session with
      source
      presenter := session.presenter.hideStatus.hidePreview }
  match fetched with
  | .error fault => (session.fail fault, false)
  | .ok none => (session.fail (emptyFault session.source), false)
  | .ok (some script) =>
      if Text.isBlankText script then
        (session.fail (emptyFault session.source), false)
      else session.transformText script

/-- Delivers the last listing again.  Tells whether all went well. -/
def copyResult (session : Session) : Session × Bool :=
  if session.result.isEmpty then
    (session.fail (.noResult Fault.noResultMessage), false)
  else
    match session.deliver session.result with
    | (session, some fault) => (session.fail fault, false)
    | (session, none) =>
        let message : Text := "Copied to " ++ session.sink.name
        ({ session with
            presenter := session.presenter.showStatus ⟨message, .success⟩ },
          true)

end Session

end SchemaSheet
