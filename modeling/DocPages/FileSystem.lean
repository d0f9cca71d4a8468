import DocPages.Path

/-!
# File Systems

A file system maps places to files and directories.  A place is the list of names that lead to it
from the root; paths are texts that are followed to a place, from the working directory unless they
start at the root.

The scope is that of plain files.  There are no links, so two places are never the same file.  Every file
can be read and written: there are no permissions, no special files and no faults of a device, so an
operation fails only because of its path or of what is, or is not, at a place.  What is proved about
reading, writing and comparing files rests on this.

## Main definitions

- `FileSystem`, `FileSystem.node?`: what is at a place
- `FileError`: an operation, a path and a cause
- `FileSystem.locate`: follows a path
- `FileSystem.read`, `FileSystem.write`, `FileSystem.makeDirectories`, `FileSystem.names`
-/

namespace DocPages

/-! ## §1 Places -/

/-- The names that lead to a file or directory from the root, outermost first. -/
abbrev Place := List Bytes

/-- What can be at a place. -/
inductive Node where
  | file (content : Bytes)
  | directory
  deriving DecidableEq, Repr

/-- Files and directories by place, with the place that relative paths start from. -/
structure FileSystem where
  /-- What is where; the first entry for a place counts. -/
  entries : List (Place × Node)
  workingDirectory : Place
  deriving DecidableEq, Repr

namespace FileSystem

/-- What is at a place; the root is always a directory. -/
def node? (fs : FileSystem) (place : Place) : Option Node :=
  if place = [] then some .directory else fs.entries.lookup place

/-- Whether a directory is at a place. -/
def isDirectory (fs : FileSystem) (place : Place) : Bool := fs.node? place = some .directory

/-- Puts a file or directory at a place. -/
def put (fs : FileSystem) (place : Place) (node : Node) : FileSystem :=
  { fs with entries := (place, node) :: fs.entries.filter fun e => e.1 != place }

/-- Removes what is at a place and below it. -/
def erase (fs : FileSystem) (place : Place) : FileSystem :=
  { fs with entries := fs.entries.filter fun e => !place.isPrefixOf e.1 }

end FileSystem

/-! ## §2 Errors -/

/-- Why a file operation fails. -/
inductive FileFault where
  | notExist
  | notDirectory
  | isDirectory
  | alreadyExists
  | nameTooLong
  | invalid
  deriving DecidableEq, Repr

/-- The wording of a fault. -/
def FileFault.message : FileFault → Bytes
  | .notExist => bytes "no such file or directory"
  | .notDirectory => bytes "not a directory"
  | .isDirectory => bytes "is a directory"
  | .alreadyExists => bytes "file exists"
  | .nameTooLong => bytes "file name too long"
  | .invalid => bytes "invalid argument"

/-- A failed operation on a path. -/
structure FileError where
  operation : Bytes
  path : Bytes
  fault : FileFault
  deriving DecidableEq, Repr

/-- The wording of a file error. -/
def FileError.message (e : FileError) : Bytes :=
  e.operation ++ bytes " " ++ e.path ++ bytes ": " ++ e.fault.message

namespace FileSystem

/-! ## §3 Following paths -/

/-- The longest name of a file. -/
def nameLimit : Nat := 255

/-- The longest path. -/
def pathLimit : Nat := 4095

/-- Follows names from a place.  Whatever is not the last name must lead to a directory. -/
def walk (fs : FileSystem) (place : Place) : List Bytes → Except FileFault Place
  | [] => .ok place
  | name :: rest =>
    match fs.node? place with
    | none => .error .notExist
    | some (.file _) => .error .notDirectory
    | some .directory =>
      if name = Path.here then fs.walk place rest
      else if name = Path.above then fs.walk place.dropLast rest
      else if nameLimit < name.length then .error .nameTooLong
      else fs.walk (place ++ [name]) rest

/-- The names of a path, without the empty ones. -/
def namesOf (path : Bytes) : List Bytes :=
  (Bytes.splitOn Path.separator path).filter fun name => !name.isEmpty

/-- The place that a path starts from. -/
def startOf (fs : FileSystem) (path : Bytes) : Place :=
  if Path.isAbsolute path then [] else fs.workingDirectory

/-- The place that a path leads to, whether or not something is there.  A path that ends in a slash
    leads to a directory. -/
def locate (fs : FileSystem) (path : Bytes) : Except FileFault Place :=
  if path.contains 0 then .error .invalid
  else if path.isEmpty then .error .notExist
  else if pathLimit < path.length then .error .nameTooLong
  else
    let trailing := if path.getLast? = some Path.separator then [Path.here] else []
    fs.walk (fs.startOf path) (namesOf path ++ trailing)

/-- What a path leads to. -/
def stat (fs : FileSystem) (path : Bytes) : Except FileFault Node :=
  match fs.locate path with
  | .error fault => .error fault
  | .ok place =>
    match fs.node? place with
    | some node => .ok node
    | none => .error .notExist

/-- Whether a path leads to a file. -/
def isFile (fs : FileSystem) (path : Bytes) : Bool :=
  match fs.stat path with
  | .ok (.file _) => true
  | _ => false

/-- Whether a path leads to a directory. -/
def leadsToDirectory (fs : FileSystem) (path : Bytes) : Bool :=
  match fs.stat path with
  | .ok .directory => true
  | _ => false

/-! ## §4 Reading -/

/-- The content of a file. -/
def read (fs : FileSystem) (path : Bytes) : Except FileError Bytes :=
  match fs.stat path with
  | .error fault => .error ⟨bytes "open", path, fault⟩
  | .ok .directory => .error ⟨bytes "read", path, .isDirectory⟩
  | .ok (.file content) => .ok content

/-- Whether a path leads to a file with exactly this content. -/
def holds (fs : FileSystem) (path content : Bytes) : Bool :=
  match fs.read path with
  | .ok found => found = content
  | .error _ => false

/-- The name of an entry directly in a directory. -/
def nameIn? (directory place : Place) : Option Bytes :=
  match directory.isPrefixOf place, place.drop directory.length with
  | true, [name] => some name
  | _, _ => none

/-- The names in a directory with what they are, sorted. -/
def names (fs : FileSystem) (path : Bytes) : Except FileError (List (Bytes × Node)) :=
  match fs.locate path with
  | .error fault => .error ⟨bytes "open", path, fault⟩
  | .ok place =>
    match fs.node? place with
    | none => .error ⟨bytes "open", path, .notExist⟩
    | some (.file _) => .error ⟨bytes "open", path, .notDirectory⟩
    | some .directory =>
      let found := fs.entries.filterMap fun e => (nameIn? place e.1).map fun name => (name, e.2)
      .ok (found.mergeSort fun a b => Bytes.le a.1 b.1)

/-! ## §5 Writing -/

/-- Makes a file with a content, or replaces the content of one. -/
def write (fs : FileSystem) (path content : Bytes) : Except FileError FileSystem :=
  match fs.locate path with
  | .error fault => .error ⟨bytes "open", path, fault⟩
  | .ok place =>
    match fs.node? place with
    | some .directory => .error ⟨bytes "open", path, .isDirectory⟩
    | _ => .ok (fs.put place (.file content))

/-- Makes one directory.  A final slash says nothing here; what is there already is in the way. -/
def makeDirectory (fs : FileSystem) (path : Bytes) : Except FileError FileSystem :=
  let fail := fun fault => Except.error ⟨bytes "mkdir", path, fault⟩
  if path.contains 0 then fail .invalid
  else if path.isEmpty then fail .notExist
  else if pathLimit < path.length then fail .nameTooLong
  else
    let names := namesOf path
    match fs.walk (fs.startOf path) names.dropLast with
    | .error fault => fail fault
    | .ok parent =>
      match fs.node? parent, names.getLast? with
      | none, _ => fail .notExist
      | some (.file _), _ => fail .notDirectory
      | some .directory, none => fail .alreadyExists
      | some .directory, some name =>
        if name = Path.here ∨ name = Path.above then fail .alreadyExists
        else if nameLimit < name.length then fail .nameTooLong
        else if (fs.node? (parent ++ [name])).isSome then fail .alreadyExists
        else .ok (fs.put (parent ++ [name]) .directory)

/-- A path up to its last name, with the slash before that. -/
def parentPath (path : Bytes) : Bytes :=
  Bytes.dropEndWhile (· != Path.separator) (Bytes.dropEndWhile (· == Path.separator) path)

/-- Makes a directory and those that lead to it, and tells what went wrong; what was made before that
    stays.  `fuel` bounds the number of names. -/
def makeDirectoriesWith : Nat → FileSystem → Bytes → FileSystem × Option FileError
  | 0, fs, path => (fs, some ⟨bytes "mkdir", path, .notExist⟩)
  | fuel + 1, fs, path =>
    match fs.stat path with
    | .ok .directory => (fs, none)
    | .ok (.file _) => (fs, some ⟨bytes "mkdir", path, .notDirectory⟩)
    | .error _ =>
      let parent := parentPath path
      match (if parent.isEmpty then (fs, none) else makeDirectoriesWith fuel fs parent) with
      | (fs, some e) => (fs, some e)
      | (fs, none) =>
        match fs.makeDirectory path with
        | .ok made => (made, none)
        | .error e => (fs, if fs.leadsToDirectory path then none else some e)

/-- Makes a directory and those that lead to it, and tells what went wrong. -/
def makeDirectories (fs : FileSystem) (path : Bytes) : FileSystem × Option FileError :=
  makeDirectoriesWith (path.length + 1) fs path

end FileSystem

end DocPages
