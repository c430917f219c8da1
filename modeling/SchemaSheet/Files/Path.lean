import SchemaSheet.Json.Display
import SchemaSheet.Text.Encoding

/-!
# Paths

A path is a list of names under the working directory or under the root.
Needless separators and names that mean "here" are dropped; names that mean
"one up" stay.
-/

namespace SchemaSheet

/-- A path in its shortest spelling. -/
structure Path where
  /-- Separators in front: none for a path under the working directory. -/
  root : Text
  names : List Text
  deriving DecidableEq, Repr

namespace Path

/-- The name of a directory inside itself. -/
def here : Text := "."

/-- The name of the directory that contains a directory. -/
def up : Text := ".."

/-- The separator of names, which also names the root. -/
def top : Text := "/"

/-- `piecesFrom piece text` divides the text at each separator; `piece` is the
reversed beginning of the first piece. -/
def piecesFrom (piece : Text) : Text → List Text
  | [] => [piece.reverse]
  | char :: rest =>
      if char = '/' then piece.reverse :: piecesFrom [] rest
      else piecesFrom (char :: piece) rest

/-- The path that a text spells.  Two separators in front, and no more than
two, are not the same as one. -/
def ofText (text : Text) : Path :=
  let slashes := (text.takeWhile (· == .of '/')).length
  { root :=
      if slashes = 0 then [] else if slashes = 2 then top ++ top else top
    names := (piecesFrom [] text).filter fun name =>
      !name.isEmpty && name != here }

/-- The paths to the names of a path, from the first name down. -/
def steps (path : Path) : List Path :=
  (List.range path.names.length).map fun count =>
    { path with names := path.names.take (count + 1) }

def spelling (path : Path) : Text :=
  if path.root.isEmpty && path.names.isEmpty then here
  else path.root ++ top.intercalate path.names

/-- The octets of the path, by which the system knows it. -/
def encode (path : Path) : Except EncodingFault (List UInt8) :=
  Utf8.encode .names path.spelling

end Path

/-- Why a file cannot be opened. -/
inductive OpenFault where
  | notFound
  | isDirectory
  | notDirectory
  | nameTooLong
  | nullCharacter
  | unencodable (reason : EncodingFault)
  deriving DecidableEq, Repr

namespace OpenFault

def message (path : Path) : OpenFault → Text
  | notFound =>
      "[Errno 2] No such file or directory: " ++ path.spelling.display
  | isDirectory =>
      "[Errno 21] Is a directory: " ++ path.spelling.display
  | notDirectory =>
      "[Errno 20] Not a directory: " ++ path.spelling.display
  | nameTooLong =>
      "[Errno 36] File name too long: " ++ path.spelling.display
  | nullCharacter => "embedded null byte"
  | unencodable reason => reason.message

def kind : OpenFault → String
  | notFound => "FileNotFoundError"
  | isDirectory => "IsADirectoryError"
  | notDirectory => "NotADirectoryError"
  | nameTooLong => "OSError"
  | nullCharacter => "ValueError"
  | unencodable _ => EncodingFault.kind

/-- The system has been asked.  Some faults lie in the path alone. -/
def refused : OpenFault → Bool
  | notFound | isDirectory | notDirectory | nameTooLong => true
  | nullCharacter | unencodable _ => false

end OpenFault

end SchemaSheet
