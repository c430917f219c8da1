import SchemaSheet.Text.Basic

/-!
# The presenter

What the user sees: a status, good or bad, and a preview of the last listing.
Both stay until they are hidden or replaced, and both are written to a screen.
-/

namespace SchemaSheet

/-- Whether a status is good or bad news. -/
inductive StatusKind where
  | success
  | error
  deriving DecidableEq, Repr

namespace StatusKind

def ofName? (name : Text) : Option StatusKind :=
  if name = "success" then some .success
  else if name = "error" then some .error
  else none

def name : StatusKind → Text
  | success => "success"
  | error => "error"

def sign : StatusKind → Text
  | success => "✅"
  | error => "❌"

end StatusKind

structure Status where
  message : Text
  kind : StatusKind
  deriving DecidableEq, Repr

/-- What the user sees. -/
structure Presenter where
  previews : Bool
  status : Option Status
  preview : Option Text
  screen : Text
  deriving DecidableEq, Repr

namespace Presenter

def start (previews : Bool) : Presenter := ⟨previews, none, none, []⟩

/-- The line above and below a preview. -/
def rule : Text := List.replicate 40 '-'

def writeLine (presenter : Presenter) (line : Text) : Presenter :=
  { presenter with screen := presenter.screen ++ line ++ "\n" }

def showStatus (presenter : Presenter) (status : Status) : Presenter :=
  { presenter with status := some status }.writeLine
    (status.kind.sign ++ " " ++ status.message)

def hideStatus (presenter : Presenter) : Presenter :=
  { presenter with status := none }

/-- Shows a preview, unless previews are not wanted. -/
def showPreview (presenter : Presenter) (content : Text) : Presenter :=
  if presenter.previews then
    let shown := { presenter with preview := some content }
    ((shown.writeLine rule).writeLine content).writeLine rule
  else presenter

def hidePreview (presenter : Presenter) : Presenter :=
  { presenter with preview := none }

end Presenter

end SchemaSheet
