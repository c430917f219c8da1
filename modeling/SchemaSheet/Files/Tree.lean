import SchemaSheet.Files.Path

/-!
# File trees

The files and directories under the working directory.  A path is followed name
by name; what it leads to is known by its place, so two paths to one place mean
the same file.
-/

namespace SchemaSheet

/-- What stands at a place. -/
inductive Node where
  | file (octets : List UInt8)
  | directory
  deriving DecidableEq, Repr

/-- Where something stands: the names from the working directory down, after
one `..` for each step out of it. -/
abbrev Location := List Text

/-- The nodes of a file tree.  At most one node counts at each place: the
first. -/
abbrev FileTree := List (Location × Node)

namespace FileTree

/-- The node at a place.  The working directory and the ones around it are
directories. -/
def node? (tree : FileTree) (location : Location) : Option Node :=
  if location.all fun name => name == Path.up || name == Path.top then
    some .directory
  else tree.lookup location

def file? (tree : FileTree) (location : Location) : Option (List UInt8) :=
  match tree.node? location with
  | some (.file octets) => some octets
  | _ => none

def put (tree : FileTree) (location : Location) (node : Node) : FileTree :=
  match tree with
  | [] => [(location, node)]
  | (place, old) :: rest =>
      if place = location then (place, node) :: rest
      else (place, old) :: put rest location node

/-- The directory around a directory. -/
def outside (location : Location) : Location :=
  match location.getLast? with
  | none => [Path.up]
  | some name =>
      if name = Path.up then location ++ [Path.up]
      else if name = Path.top then location
      else location.dropLast

/-- Where a path begins. -/
def origin (path : Path) : Location :=
  if path.root.isEmpty then [] else [Path.top]

/-- A name as the system keeps it.  Names that consist of the same octets are
the same. -/
def keptName (name : Text) : Text :=
  Utf8.decodeNames (Utf8.octets .names name)

/-- The place that a name leads to from a directory. -/
def enter (location : Location) (name : Text) : Location :=
  if name = Path.up then outside location else location ++ [keptName name]

def nameSize (name : Text) : Nat := (Utf8.octets .names name).length

/-- The longest name that a node can have, in octets. -/
def longestName : Nat := 255

/-- The longest spelling of a path that can be followed, in octets. -/
def longestPath : Nat := 4095

/-- Follows names from a directory to a place.  All names but the last have to
lead to directories.  A name is found to be too long when it is looked up. -/
def follow (tree : FileTree) (location : Location) :
    List Text → Except OpenFault Location
  | [] => .ok location
  | name :: rest =>
      let next := enter location name
      if longestName < nameSize name then .error .nameTooLong
      else if rest.isEmpty then .ok next
      else
        match tree.node? next with
        | some .directory => follow tree next rest
        | some (.file _) => .error .notDirectory
        | none => .error .notFound

/-- The place that a path leads to.  A path without octets, or with a null among
them, leads nowhere. -/
def locate (tree : FileTree) (path : Path) : Except OpenFault Location :=
  match path.encode with
  | .error reason => .error (.unencodable reason)
  | .ok octets =>
      if octets.contains 0 then .error .nullCharacter
      else if longestPath < octets.length then .error .nameTooLong
      else tree.follow (origin path) path.names

def read (tree : FileTree) (path : Path) : Except OpenFault (List UInt8) :=
  match tree.locate path with
  | .error fault => .error fault
  | .ok location =>
      match tree.node? location with
      | some (.file octets) => .ok octets
      | some .directory => .error .isDirectory
      | none => .error .notFound

/-- The tree after the octets are written to the file that a path leads to.
The file is made if there is none; its directory has to exist. -/
def write (tree : FileTree) (path : Path) (octets : List UInt8) :
    Except OpenFault FileTree :=
  match tree.locate path with
  | .error fault => .error fault
  | .ok location =>
      match tree.node? location with
      | some .directory => .error .isDirectory
      | _ => .ok (tree.put location (.file octets))

/-- Adds the directories that contain a place. -/
def withParents (tree : FileTree) (location : Location) : FileTree :=
  (List.range location.length).foldl
    (fun tree length =>
      let parent := location.take length
      if (tree.node? parent).isSome then tree else tree.put parent .directory)
    tree

/-- The tree with the given nodes and the directories that contain them. -/
def ofNodes (nodes : List (Text × Node)) : FileTree :=
  nodes.foldl
    (fun tree entry =>
      let location := (Path.ofText entry.1).names.map keptName
      (tree.withParents location).put location entry.2)
    []

/-- The files of the tree in the working directory, with their paths and their
octets. -/
def files (tree : FileTree) : List (Text × List UInt8) :=
  tree.filterMap fun entry =>
    match entry.2 with
    | .file octets =>
        if entry.1.head? = some Path.up ∨ entry.1.head? = some Path.top then
          none
        else some (Path.top.intercalate entry.1, octets)
    | .directory => none

end FileTree

end SchemaSheet
