import SchemaSheet.CommandLine.Options
import SchemaSheet.Transfer.Session

/-!
# Runs

A run of the program: the command line chooses a source, a sink and settings,
and one transformation is made with them.
-/

namespace SchemaSheet

/-- What a run finds.  The standard error takes whatever is written to it. -/
structure World where
  desk : Desk
  /-- The octets of the standard input, and why it cannot be read. -/
  input : List UInt8
  inputFault : Option CallFault
  /-- The standard output. -/
  output : StreamCalls
  /-- How large the values in a file of settings may be. -/
  limits : JsonLimits

/-- What a run leaves behind. -/
structure Outcome where
  /-- Zero if all went well. -/
  exitCode : Nat
  /-- What the standard output has taken. -/
  output : Text
  /-- What was written to the standard error. -/
  messages : Text
  desk : Desk

namespace Options

def changes (options : Options) : Settings :=
  [(Settings.titlesKey, if options.titles then .bool true else .null),
    (Settings.previewKey, if options.noPreview then .bool false else .null)]

def given (value : Option Text) : Option Text :=
  match value with
  | .none | some [] => .none
  | some text => some text

/-- The source that the command line chooses. -/
def source (options : Options) (world : World) : Source :=
  if options.fromClipboard then .clipboard
  else
    match given options.input with
    | some path => .file (Path.ofText path)
    | .none => .standardInput world.input world.inputFault

/-- The sink that the command line chooses. -/
def sink (options : Options) (world : World) : Sink :=
  if options.toClipboard then .clipboard
  else
    match given options.output with
    | some path => .file (Path.ofText path)
    | .none => .standardOutput [] world.output

/-- The settings that the command line and its file of settings give. -/
def load (options : Options) (world : World) :
    Except SettingsFault Settings :=
  Settings.load world.limits world.desk.toDisk (given options.settings)
    options.changes

end Options

namespace Sink

def isStandardOutput : Sink → Bool
  | standardOutput _ _ => true
  | _ => false

def received : Sink → Text
  | standardOutput text _ => text
  | _ => []

end Sink

namespace CommandLine

/-- What is put in front of a failure of the settings. -/
def settingsNotice : Text := "Ошибка конфигурации: "

def refused (desk : Desk) (fault : Fault) : Outcome :=
  ⟨1, [], settingsNotice ++ fault.text ++ "\n", desk⟩

/-- The session of a run.  What goes to the standard output needs no
preview. -/
def session (options : Options) (settings : Settings) (world : World) :
    Except SettingsFault Session :=
  let sink := options.sink world
  let previews :=
    Settings.isOn settings Settings.previewKey && !sink.isStandardOutput
  Session.start settings (options.source world) sink world.desk
    (some (.start previews))

def finish [Splitter] (session : Session) : Outcome :=
  let (session, success) := session.transform
  { exitCode := if success then 0 else 1
    output := session.sink.received
    messages := session.presenter.screen
    desk := session.desk }

/-- A run with the given options.  Failures of the settings are shown; one that
is no failure of the settings alone ends the run without an outcome. -/
def run [Splitter] (options : Options) (world : World) :
    Except Fault Outcome :=
  let started := (options.load world).bind fun settings =>
    session options settings world
  match started with
  | .ok session => .ok (finish session)
  | .error fault =>
      match fault.fault with
      | .foreign kind message => .error (.foreign kind message)
      | known => .ok (refused world.desk known)

end CommandLine

end SchemaSheet
