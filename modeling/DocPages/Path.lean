import DocPages.Bytes

/-!
# Paths

A path is a text whose names are divided by slashes.  Cleaning a path removes what does not matter:
empty names, single dots, and a name followed by two dots.

## Main definitions

- `Path.components`: the cleaned names of a path
- `Path.clean`, `Path.join`, `Path.directory`
- `Path.isLocal`: whether a path stays below the place it starts from
-/

namespace DocPages

namespace Path

/-- The byte that divides names. -/
def separator : UInt8 := 0x2F

/-- The name for the place itself. -/
def here : Bytes := bytes "."

/-- The name for the place above. -/
def above : Bytes := bytes ".."

/-- Whether a path starts at the root. -/
def isAbsolute (path : Bytes) : Bool := path.head? == some separator

/-- Follows one name from a place, the names of which are listed innermost first.  Above the root is
    the root; above a relative start are two dots. -/
def follow (absolute : Bool) (place : List Bytes) (name : Bytes) : List Bytes :=
  if name = [] ∨ name = here then place
  else if name = above then
    match place with
    | [] => if absolute then [] else [above]
    | inner :: outer => if inner = above then above :: place else outer
  else name :: place

/-- The names of a cleaned path, outermost first. -/
def components (path : Bytes) : List Bytes :=
  ((Bytes.splitOn separator path).foldl (follow (isAbsolute path)) []).reverse

/-- A path from its names. -/
def ofComponents (absolute : Bool) (names : List Bytes) : Bytes :=
  let relative := Bytes.join [separator] names
  if absolute then separator :: relative
  else if names.isEmpty then here
  else relative

/-- The shortest path to the same place. -/
def clean (path : Bytes) : Bytes := ofComponents (isAbsolute path) (components path)

/-- A path followed from a directory, cleaned; an empty part does not count. -/
def join (directory path : Bytes) : Bytes :=
  if directory.isEmpty then (if path.isEmpty then [] else clean path)
  else clean (directory ++ separator :: path)

/-- The directory that a path lies in. -/
def directory (path : Bytes) : Bytes :=
  match Bytes.cutLast? [separator] path with
  | some (before, _) => clean (before ++ [separator])
  | none => here

/-- Whether a path stays below the place it starts from: it is relative and does not climb. -/
def isLocal (path : Bytes) : Bool :=
  !path.isEmpty && !isAbsolute path && (components path).head? != some above

end Path

end DocPages
