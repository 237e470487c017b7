import Multimeter.Files.Path
import Multimeter.Text.Utf8

/-!
# Files

Directories and files by their place in the tree, and the calls on them. A call follows the names
of its path from left to right, and the first name that stands in its way decides the error.

The contents of a file are text with undecodable parts. There is one kind of device: it can be
opened, but nothing can be read from it as text or written to it. Everything may be read, and some
places may be read only.
-/

namespace Multimeter

inductive FileError
  | notFound
  | permissionDenied
  | notADirectory
  | isADirectory
  | nameTooLong
  | alreadyExists
  | nulInPath
deriving DecidableEq, Repr

namespace FileError

def name : FileError → String
  | .notFound => "NotFound"
  | .permissionDenied => "PermissionDenied"
  | .notADirectory => "NotADirectory"
  | .isADirectory => "IsADirectory"
  | .nameTooLong => "InvalidFilename"
  | .alreadyExists => "AlreadyExists"
  | .nulInPath => "InvalidInput"

def message : FileError → String
  | .notFound => "No such file or directory (os error 2)"
  | .permissionDenied => "Permission denied (os error 13)"
  | .notADirectory => "Not a directory (os error 20)"
  | .isADirectory => "Is a directory (os error 21)"
  | .nameTooLong => "File name too long (os error 36)"
  | .alreadyExists => "File exists (os error 17)"
  | .nulInPath => "file name contained an unexpected NUL byte"

end FileError

abbrev Contents := List Text.Symbol

inductive Node
  | directory
  | file (contents : Contents)
  | device
deriving DecidableEq, Repr

/-- Where a node is in the tree: the names that lead there, the last one first. The depth tells
most places apart without a look at their names. -/
structure Place where
  depth : Nat
  names : List String
  depth_eq : depth = names.length
deriving DecidableEq, Repr

namespace Place

def root : Place := ⟨0, [], rfl⟩

def child (p : Place) (name : String) : Place :=
  ⟨p.depth + 1, name :: p.names, congrArg (· + 1) p.depth_eq⟩

/-- The directory it is in. The root is in itself. -/
def up (p : Place) : Place :=
  ⟨p.depth - 1, p.names.tail, by rw [p.depth_eq, List.length_tail]⟩

/-- The place that names lead to, the first one first. -/
def ofNames (names : List String) : Place := names.foldl child root

end Place

structure Files where
  nodes : List (Place × Node) := []
  /-- Where relative paths begin. -/
  current : Place := .root
  /-- Where it is not permitted to write, or to make anything if a directory is there. -/
  readOnly : List Place := []
deriving DecidableEq, Repr

namespace Files

/-- The root is always there. -/
def node? (fs : Files) (place : Place) : Option Node :=
  if place = .root then some .directory else (fs.nodes.find? (·.1 == place)).map (·.2)

def isReadOnly (fs : Files) (place : Place) : Bool := fs.readOnly.contains place

/-- Put a node at a place, where it is permitted to write from then on. -/
def put (fs : Files) (place : Place) (n : Node) : Files :=
  { fs with
    nodes := (place, n) :: fs.nodes.filter (·.1 != place)
    readOnly := fs.readOnly.filter (· != place) }

def protect (fs : Files) (place : Place) : Files := { fs with readOnly := place :: fs.readOnly }

/-- Make a node with this name, where there is none, in a directory. -/
def make (fs : Files) (directory : Place) (name : String) (n : Node) : Except FileError Files :=
  if fs.isReadOnly directory then .error .permissionDenied
  else .ok (fs.put (directory.child name) n)

/-- The longest name in bytes. -/
def longestName : Nat := 255

/-- The longest path in bytes. -/
def longestPath : Nat := 4095

/-- The node of a name in a directory, if there is one. -/
def child? (fs : Files) (place : Place) (name : String) : Except FileError (Option Node) :=
  if longestName < name.utf8ByteSize then .error .nameTooLong
  else .ok (fs.node? (place.child name))

/-- Go into a directory. -/
def enter (fs : Files) (place : Place) (name : String) : Except FileError Place :=
  if name = "." then .ok place
  else if name = ".." then .ok place.up
  else
    match fs.child? place name with
    | .error e => .error e
    | .ok none => .error .notFound
    | .ok (some .directory) => .ok (place.child name)
    | .ok (some _) => .error .notADirectory

def start (fs : Files) (p : Path) : Place := if p.isAbsolute then .root else fs.current

/-- The directory that the path leads to and its last name, which may be a dot. -/
def follow (fs : Files) (p : Path) : Except FileError (Place × String) :=
  if p.text.toList.contains '\x00' then .error .nulInPath
  else if p.text.isEmpty then .error .notFound
  else if longestPath < p.text.utf8ByteSize then .error .nameTooLong
  else do
    let place ← p.names.dropLast.foldlM fs.enter (fs.start p)
    .ok (place, p.names.getLast?.getD ".")

/-- The places that a path goes through, as far as its names say. -/
def passed (fs : Files) (p : Path) : List Place :=
  go (fs.start p) p.names
where
  go (place : Place) : List String → List Place
    | [] => []
    | name :: names =>
      let next :=
        if name = "." then place
        else if name = ".." then place.up
        else place.child name
      next :: go next names

def isDot (name : String) : Bool := name == "." || name == ".."

/-- The node to read from. -/
def openForReading (fs : Files) (p : Path) : Except FileError Node := do
  let (place, name) ← fs.follow p
  if isDot name then .ok .directory
  else
    match ← fs.child? place name with
    | none => .error .notFound
    | some .directory => .ok .directory
    | some n => if p.endsInSlash then .error .notADirectory else .ok n

/-- The place to write to. A file there is emptied, and one that is missing is created. -/
def openForWriting (fs : Files) (p : Path) : Except FileError (Place × Files) := do
  let (place, name) ← fs.follow p
  if isDot name || p.endsInSlash then .error .isADirectory
  else
    match ← fs.child? place name with
    | some .directory => .error .isADirectory
    | some n =>
      if fs.isReadOnly (place.child name) then .error .permissionDenied
      else if n = .device then .ok (place.child name, fs)
      else .ok (place.child name, fs.put (place.child name) (.file []))
    | none => return (place.child name, ← fs.make place name (.file []))

/-- Write to a place that was opened for writing. Nothing fits on a device. -/
def write? (fs : Files) (place : Place) (contents : Contents) : Option Files :=
  match fs.node? place with
  | some (.file _) => some (fs.put place (.file contents))
  | _ => none

def makeDirectory (fs : Files) (p : Path) : Except FileError Files := do
  let (place, name) ← fs.follow p
  if isDot name then .error .alreadyExists
  else
    match ← fs.child? place name with
    | some _ => .error .alreadyExists
    | none => fs.make place name .directory

def isDirectory (fs : Files) (p : Path) : Bool :=
  match fs.openForReading p with
  | .ok .directory => true
  | _ => false

/-- Make a directory unless it is there. -/
def ensureDirectory (fs : Files) (p : Path) : Except FileError Unit × Files :=
  match fs.makeDirectory p with
  | .ok fs => (.ok (), fs)
  | .error e => (if fs.isDirectory p then .ok () else .error e, fs)

/-- Make the directories that are missing on the way along the names. -/
def makeAlong (fs : Files) (place : Place) : List String → Except FileError Unit × Files
  | [] => (.ok (), fs)
  | name :: names =>
    if name = "." then fs.makeAlong place names
    else if name = ".." then fs.makeAlong place.up names
    else
      match fs.child? place name with
      | .error e => (.error e, fs)
      | .ok none =>
        match fs.make place name .directory with
        | .error e => (.error e, fs)
        | .ok fs => fs.makeAlong (place.child name) names
      | .ok (some .directory) => fs.makeAlong (place.child name) names
      | .ok (some _) => (.error .alreadyExists, fs)

/-- Make a directory, and those it is in if one of them is missing. -/
def ensureDirectories (fs : Files) (p : Path) : Except FileError Unit × Files :=
  if p.text.isEmpty then (.ok (), fs)
  else
    match fs.ensureDirectory p, p.parent? with
    | (.error .notFound, _), some parent =>
      match fs.makeAlong (fs.start p) parent.names with
      | (.error e, fs) => (.error e, fs)
      | (.ok _, fs) => fs.ensureDirectory p
    | answer, _ => answer

/-- The text of a file. -/
def text? (fs : Files) (p : Path) : Option String :=
  match fs.openForReading p with
  | .ok (.file contents) => some (Text.lossy contents)
  | _ => none

end Files

end Multimeter
