import SchemaSheet.Files.Disk
import SchemaSheet.Json.Display
import SchemaSheet.Json.Reader
import SchemaSheet.Table.Declaration
import SchemaSheet.Table.Listing
import SchemaSheet.Text.Blank
import SchemaSheet.Text.Utf8

/-!
# Settings

Settings are the members of a JSON object.  They are read from a file, changed
by what the command line says, and filled up with defaults.  The program makes
openings of clauses and the style of listings of them.
-/

namespace SchemaSheet

abbrev Settings := Members

namespace Settings

/-- The name of the list of further openings of clauses. -/
def openingsKey : Text := "extra_structural_keywords"

/-- The name of the switch that sanitizes fields. -/
def sanitizeKey : Text := "sanitize_fields"

/-- The name of the switch that adds a row of titles. -/
def titlesKey : Text := "include_header"

/-- The name of the switch that shows a preview. -/
def previewKey : Text := "preview"

/-- The settings that hold where nothing else is said. -/
def defaults : Settings :=
  [(openingsKey, .array []), (sanitizeKey, .bool true),
    (titlesKey, .bool false), (previewKey, .bool true)]

def withDefaults (settings : Settings) : Settings :=
  defaults.foldl (fun filled entry => filled.putNew entry.1 entry.2) settings

def get (settings : Settings) (name : Text) : Json :=
  (Members.get? settings.withDefaults name).getD .null

/-- A switch is on if its value counts as true. -/
def isOn (settings : Settings) (name : Text) : Bool :=
  (settings.get name).isTruthy

/-- The settings with the given ones in place of theirs.  One that is absent
changes nothing. -/
def override (settings changes : Settings) : Settings :=
  changes.foldl
    (fun changed entry =>
      if entry.2.isPresent then changed.put entry.1 entry.2 else changed)
    settings

end Settings

/-- Why settings cannot be used. -/
inductive SettingsFault where
  /-- The file cannot be read.  Where the system has not refused, this is no
  failure of the settings alone. -/
  | unreadable (path : Text) (reason : CallFault)
  /-- The text of the file writes no value.  Where it exceeds a limit, this is
  no failure of the settings alone. -/
  | notJson (path text : Text) (reason : JsonFault)
  | notAnObject
  | unknownKeys (first : Text) (others : List Text)
  | openingsNotAList (value : Json)
  | invalidOpening (value : Json)
  /-- The file is not a text.  This is no failure of the settings alone. -/
  | undecodable (reason : Utf8Fault)
  deriving BEq, Repr

namespace SettingsFault

def fileKey : Text := "config"

def decodingKind : String := "UnicodeDecodeError"

/-- The kind of a failure because of a value that cannot be used at all. -/
def valueKind : String := "ValueError"

/-- The kind of a failure because of values that contain each other. -/
def depthKind : String := "RecursionError"

/-- The wording of a failure because of too many digits. -/
def longIntegerMessage (limit digits : Nat) : Text :=
  "Exceeds the limit (" ++ Text.ofNat limit
    ++ " digits) for integer string conversion: value has " ++ Text.ofNat digits
    ++ " digits; use sys.set_int_max_str_digits() to increase the limit"

/-- The wording of a failure because of a value that stands too deep. -/
def depthMessage (value : Text) : Text :=
  "maximum recursion depth exceeded while decoding a JSON " ++ value
    ++ " from a unicode string"

/-- What is put in front of the reason why a file of settings is refused. -/
def wording (notice path reason : Text) : Fault :=
  .configuration (notice ++ " config file " ++ path ++ ": " ++ reason)
    (some fileKey) none

def fault : SettingsFault → Fault
  | unreadable path reason => reason.fault (wording "cannot read" path)
  | notJson path text (.invalid problem left) =>
      wording "invalid JSON in" path
        (problem.message (text.take (text.length - left)))
  | notJson _ _ (.longInteger limit digits) =>
      .foreign valueKind (longIntegerMessage limit digits)
  | notJson _ _ .deepArray => .foreign depthKind (depthMessage "array")
  | notJson _ _ .deepObject => .foreign depthKind (depthMessage "object")
  | notAnObject =>
      .configuration "config file must contain a JSON object" (some fileKey)
        none
  | unknownKeys first others =>
      .configuration
        ("unknown config keys: " ++ Text.listed (first :: others))
        (some first) none
  | openingsNotAList value =>
      .configuration "extra_structural_keywords must be a list of strings"
        (some Settings.openingsKey) (some value.display)
  | invalidOpening value =>
      .configuration "structural keyword must be a non-empty string"
        (some Settings.openingsKey) (some value.display)
  | undecodable reason => .foreign decodingKind reason.message

end SettingsFault

namespace Settings

/-- Names in the order of their code points. -/
def sortNames (names : List Text) : List Text :=
  names.mergeSort fun left right =>
    !List.lex (Text.codes right) (Text.codes left) Nat.blt

def ofFile (limits : JsonLimits) (disk : Disk) (path : Text) :
    Except SettingsFault Settings :=
  match disk.read (Path.ofText path) with
  | .error reason => .error (.unreadable path reason)
  | .ok octets =>
      match readOctets octets with
      | .error reason => .error (.undecodable reason)
      | .ok text =>
          match Json.read limits text with
          | .error reason => .error (.notJson path text reason)
          | .ok (.object settings) =>
              let unknown := (Members.names settings).filter fun name =>
                !(Members.names defaults).contains name
              match sortNames unknown with
              | [] => .ok settings
              | first :: others => .error (.unknownKeys first others)
          | .ok _ => .error .notAnObject

def load (limits : JsonLimits) (disk : Disk) (path : Option Text)
    (changes : Settings) : Except SettingsFault Settings :=
  let given : Except SettingsFault Settings :=
    match path with
    | none => .ok []
    | some path => if path.isEmpty then .ok [] else ofFile limits disk path
  given.map fun settings => (override settings changes).withDefaults

/-- The opening that an item of the list of openings gives. -/
def openingOf : Json → Except SettingsFault Opening
  | .text text =>
      match Text.words text with
      | [] => .error (.invalidOpening (.text text))
      | words => .ok (words.map Text.upper)
  | value => .error (.invalidOpening value)

/-- Adds openings to a list that has none of them twice. -/
def addOpenings (openings : List Opening) :
    List Json → Except SettingsFault (List Opening)
  | [] => .ok openings
  | item :: rest =>
      match openingOf item with
      | .error fault => .error fault
      | .ok opening =>
          if openings.contains opening then addOpenings openings rest
          else addOpenings (openings ++ [opening]) rest

/-- The openings of clauses: the standard ones and the ones in the settings. -/
def openings (settings : Settings) : Except SettingsFault (List Opening) :=
  let extra := settings.get openingsKey
  if extra.isTruthy then
    match extra with
    | .array items => addOpenings Opening.standard items
    | value => .error (.openingsNotAList value)
  else .ok Opening.standard

def style (settings : Settings) : ListingStyle :=
  ⟨settings.isOn sanitizeKey, settings.isOn titlesKey⟩

end Settings

end SchemaSheet
