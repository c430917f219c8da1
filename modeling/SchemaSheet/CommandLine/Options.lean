import SchemaSheet.Text.WordChar

/-!
# Options

The command line: switches with and without values, their abbreviations, and
the pairs of switches that exclude each other.  The arguments are first told
apart one by one and then taken from left to right.
-/

namespace SchemaSheet

/-- A switch of the command line. -/
inductive Switch where
  | help
  | input
  | fromClipboard
  | output
  | toClipboard
  | titles
  | noPreview
  | settings
  | verbose
  deriving DecidableEq, Repr

namespace Switch

def spellings : List (Text × Switch) :=
  [("-h", help), ("--help", help), ("--in", input),
    ("--from-clipboard", fromClipboard), ("--out", output),
    ("--to-clipboard", toClipboard), ("--header", titles),
    ("--no-preview", noPreview), ("--config", settings), ("-v", verbose),
    ("--verbose", verbose)]

def ofSpelling? (spelling : Text) : Option Switch :=
  spellings.lookup spelling

def takesValue : Switch → Bool
  | input | output | settings => true
  | _ => false

/-- The switch that this one excludes. -/
def rival? : Switch → Option Switch
  | input => some fromClipboard
  | fromClipboard => some input
  | output => some toClipboard
  | toClipboard => some output
  | _ => none

end Switch

/-- A word of the command line, told apart. -/
inductive CommandWord where
  /-- A value, or something that is no switch. -/
  | operand (text : Text)
  /-- The mark behind which there are no switches. -/
  | mark
  | switch (switch : Switch)
  /-- A switch by its name with a value in the same argument. -/
  | assigned (switch : Switch) (value : Text)
  /-- Several switches by their letters. -/
  | letters (switches : List Switch)
  /-- Looks like a switch and is none. -/
  | unknown
  | ambiguous
  /-- A switch followed by what cannot follow it. -/
  | malformed
  deriving DecidableEq, Repr

namespace CommandWord

/-- A text divided at the first equals sign, if it has one. -/
def assignment? (text : Text) : Option (Text × Text) :=
  match text.dropWhile (· != .of '=') with
  | [] => none
  | _ :: value => some (text.takeWhile (· != .of '='), value)

def isNegativeNumber (text : Text) : Bool :=
  match text with
  | '-' :: rest =>
      let body := if rest.getLast? = some '\n' then rest.dropLast else rest
      let fraction := body.dropWhile isDigit
      (!body.isEmpty && fraction.isEmpty)
        || (match fraction with
          | '.' :: digits => !digits.isEmpty && digits.all isDigit
          | _ => false)
  | _ => false

/-- The switches of further letters, after those found so far. -/
def moreLetters (found : List Switch) : Text → CommandWord
  | [] => letters found.reverse
  | char :: rest =>
      match Switch.ofSpelling? ['-', char] with
      | none => malformed
      | some next => moreLetters (next :: found) rest

/-- An argument that begins with one minus sign and is no name of a switch. -/
def short (text : Text) : Option CommandWord :=
  (Switch.ofSpelling? (text.take 2)).map fun first =>
    moreLetters [first] (text.drop 2)

/-- A switch by one of its spellings, with a value in the same argument.  A
letter that takes no value is followed by more letters instead.  Two minus signs
stand for no value. -/
def named (spelling : Text) (found : Switch) (value : Text) : CommandWord :=
  if found.takesValue then
    assigned found (if value = "--" then [] else value)
  else if spelling.length = 2 && !value.isEmpty then moreLetters [found] value
  else malformed

/-- An argument that begins with two minus signs: an abbreviation. -/
def long (text : Text) : Option CommandWord :=
  let (name, value) :=
    match assignment? text with
    | some (name, value) => (name, some value)
    | none => (text, none)
  let candidates := Switch.spellings.filter fun entry =>
    name.isPrefixOf entry.1
  match candidates with
  | [] => none
  | [(_, found)] =>
      match value with
      | some value => some (named name found value)
      | none => some (switch found)
  | _ => some ambiguous

/-- An argument that no switch explains. -/
def unexplained (text : Text) : CommandWord :=
  if isNegativeNumber text ∨ text.contains ' ' then operand text else unknown

/-- An argument told apart. -/
def ofText (text : Text) : CommandWord :=
  match text with
  | [] | ['-'] => operand text
  | '-' :: second :: _ =>
      match Switch.ofSpelling? text with
      | some found => switch found
      | none =>
          let found := (assignment? text).bind fun (name, value) =>
            (Switch.ofSpelling? name).map fun found => named name found value
          match found with
          | some told => told
          | none =>
              ((if second = '-' then long text else short text).getD
                (unexplained text))
  | _ => operand text

/-- The arguments of a command line, told apart.  Behind the mark all are
values. -/
def ofArguments : List Text → List CommandWord
  | [] => []
  | text :: rest =>
      if text = "--" then mark :: rest.map operand
      else ofText text :: ofArguments rest

end CommandWord

/-- What the command line asks for.  A value that was not given is absent, and
so is a choice that was not made. -/
structure Options where
  input : Option Text
  fromClipboard : Bool
  output : Option Text
  toClipboard : Bool
  titles : Bool
  noPreview : Bool
  settings : Option Text
  deriving DecidableEq, Repr

/-- What becomes of a command line. -/
inductive Invocation where
  | misuse
  /-- The command line asks for help. -/
  | help
  | run (options : Options)
  deriving DecidableEq, Repr

namespace Options

/-- The options of an empty command line. -/
def none : Options := ⟨.none, false, .none, false, false, false, .none⟩

def has (options : Options) : Switch → Bool
  | .input => options.input.isSome
  | .fromClipboard => options.fromClipboard
  | .output => options.output.isSome
  | .toClipboard => options.toClipboard
  | _ => false

/-- A rival of the switch has been given. -/
def conflicts (options : Options) (switch : Switch) : Bool :=
  switch.rival?.any options.has

/-- The options with a switch that has no value. -/
def set (options : Options) : Switch → Options
  | .fromClipboard => { options with fromClipboard := true }
  | .toClipboard => { options with toClipboard := true }
  | .titles => { options with titles := true }
  | .noPreview => { options with noPreview := true }
  | _ => options

/-- The options with a switch that has a value. -/
def assign (options : Options) (value : Text) : Switch → Options
  | .input => { options with input := some value }
  | .output => { options with output := some value }
  | .settings => { options with settings := some value }
  | _ => options

/-- Takes switches without values, in order, or tells how the command line
ends.  Help ends everything. -/
def setAll (options : Options) : List Switch → Except Invocation Options
  | [] => .ok options
  | .help :: _ => .error .help
  | switch :: rest =>
      if options.conflicts switch then .error .misuse
      else setAll (options.set switch) rest

/-- Takes one switch with its value, or tells how the command line ends. -/
def assignOne (options : Options) (switch : Switch) (value : Text) :
    Except Invocation Options :=
  if switch.takesValue && !options.conflicts switch then
    .ok (options.assign value switch)
  else .error .misuse

/-- Takes arguments from left to right.  `clean` says that nothing has been
left over so far; left-over arguments are an error once all are taken. -/
def take (clean : Bool) (options : Options) : List CommandWord → Invocation
  | [] => if clean then .run options else .misuse
  | .ambiguous :: _ | .malformed :: _ => .misuse
  | .operand _ :: rest | .mark :: rest | .unknown :: rest =>
      take false options rest
  | .letters switches :: rest =>
      match options.setAll switches with
      | .error ending => ending
      | .ok options => take clean options rest
  | .assigned switch value :: rest =>
      match options.assignOne switch value with
      | .error ending => ending
      | .ok options => take clean options rest
  | .switch switch :: rest =>
      if switch.takesValue then
        match rest with
        | .operand value :: later =>
            match options.assignOne switch value with
            | .error ending => ending
            | .ok options => take clean options later
        | _ => .misuse
      else
        match options.setAll [switch] with
        | .error ending => ending
        | .ok options => take clean options rest

end Options

namespace Invocation

/-- What becomes of the arguments of a command line. -/
def ofArguments (arguments : List Text) : Invocation :=
  let told := CommandWord.ofArguments arguments
  if told.contains .ambiguous then misuse
  else Options.take true Options.none told

end Invocation

end SchemaSheet
