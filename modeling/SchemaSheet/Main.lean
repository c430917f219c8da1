import SchemaSheet.CommandLine.Run
import SchemaSheet.Script.Statement
import SchemaSheet.Text.Escape

/-!
# The program

The command line with real files and streams.  What stands at the paths that the
options name is looked up first; the run itself has no effects, and a file that
it has changed is written afterwards.  There is no clipboard.
-/

namespace SchemaSheet

namespace Program

def usage : String :=
  "usage: schemasheet [-h] [--in FILE | --from-clipboard]\n"
    ++ "                   [--out FILE | --to-clipboard] [--header]\n"
    ++ "                   [--no-preview] [--config FILE] [-v]"

/-- The code of the system for a directory that is read like a file. -/
def directoryCode : UInt32 := 21

/-- What stands at a path. -/
def nodeAt (path : Path) : IO (Option Node) := do
  try
    let octets ← IO.FS.readBinFile path.spelling.toString
    return some (.file octets.toList)
  catch
    | .inappropriateType _ code _ =>
        return if code = directoryCode then some .directory else none
    | _ => return none

def addNode (tree : FileTree) (path : Path) : IO FileTree := do
  let location := path.names.foldl FileTree.enter (FileTree.origin path)
  match ← nodeAt path with
  | some node => return FileTree.put tree location node
  | none => return tree

/-- The tree with what stands along a path added to it. -/
def survey (tree : FileTree) (path : Path) : IO FileTree :=
  path.steps.foldlM addNode tree

def paths (options : Options) : List Path :=
  [options.input, options.output, options.settings].filterMap fun value =>
    (Options.given value).map Path.ofText

partial def octetsUpToEnd (stream : IO.FS.Stream) (found : ByteArray) :
    IO ByteArray := do
  let next ← stream.read 65536
  if next.isEmpty then return found
  else octetsUpToEnd stream (found ++ next)

def inputOctets (options : Options) : IO (List UInt8) := do
  if options.fromClipboard || (Options.given options.input).isSome then
    return []
  else return (← octetsUpToEnd (← IO.getStdin) .empty).toList

/-- How large the values in a file of settings may be. -/
def limits : JsonLimits := ⟨some 4300, some 1000⟩

def noClipboard : Clipboard :=
  { content := []
    calls :=
      { ClipboardCalls.sound with
        opening := some ⟨"ClipboardError", "there is no clipboard", false⟩ } }

/-- Writes a file if a run has changed it. -/
def keep (before after : FileTree) (path : Path) : IO Unit := do
  match FileTree.read after path with
  | .ok octets =>
      if (FileTree.read before path).toOption != some octets then
        IO.FS.writeBinFile path.spelling.toString ⟨octets.toArray⟩
  | .error _ => return

/-- A run with the given options.  The result is the code that the program
exits with. -/
def run (options : Options) : IO UInt32 := do
  let files ← (paths options).foldlM survey []
  let world : World :=
    { desk := { files, calls := .sound, clipboard := noClipboard }
      input := ← inputOctets options
      inputFault := none
      output := .encoding
      limits }
  match CommandLine.run options world with
  | .error fault =>
      IO.eprintln fault.text.toString
      return 1
  | .ok outcome =>
      (paths options).forM (keep files outcome.desk.files)
      IO.print outcome.output.toString
      IO.eprint outcome.messages.toString
      return UInt32.ofNat outcome.exitCode

end Program

end SchemaSheet

def main (arguments : List String) : IO UInt32 := do
  let texts := arguments.map SchemaSheet.Text.ofString
  match SchemaSheet.Invocation.ofArguments texts with
  | .misuse =>
      IO.eprintln SchemaSheet.Program.usage
      return 2
  | .help =>
      IO.println SchemaSheet.Program.usage
      return 0
  | .run options => SchemaSheet.Program.run options
