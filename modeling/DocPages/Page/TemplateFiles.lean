import DocPages.FileSystem
import DocPages.Page.Template

/-!
# Templates From a Directory

A template directory has an index and a page template; its other files go along with the site, and
its subdirectories do not.
-/

namespace DocPages

namespace Templates

/-- Why templates cannot be read. -/
inductive Error where
  | directory (cause : FileError)
  | file (cause : FileError)
  | incomplete (dir : Bytes)
  deriving DecidableEq, Repr

/-- The wording of an error. -/
def Error.message : Error → Bytes
  | .directory cause => bytes "read template dir: " ++ cause.message
  | .file cause => bytes "read template: " ++ cause.message
  | .incomplete dir =>
    bytes "template dir " ++ dir ++ bytes " must contain " ++ indexTemplate ++ bytes " and " ++
      pageTemplate

/-- The names of the files among the entries of a directory. -/
def fileNames (entries : List (Bytes × Node)) : List Bytes :=
  entries.filterMap fun (name, node) =>
    match node with
    | .file _ => some name
    | .directory => none

/-- Reads the files with given names in a directory. -/
def readFiles (fs : FileSystem) (dir : Bytes) (names : List Bytes) :
    Except FileError (List (Bytes × Bytes)) :=
  names.mapM fun name => do return (name, ← fs.read (Path.join dir name))

/-- The templates in a directory; without one, the built-in templates. -/
def load (fs : FileSystem) (dir : Bytes) : Except Error Templates :=
  if dir.isEmpty then .ok builtIn
  else
    match fs.names dir with
    | .error cause => .error (.directory cause)
    | .ok entries =>
      match readFiles fs dir (fileNames entries) with
      | .error cause => .error (.file cause)
      | .ok files =>
        match files.lookup indexTemplate, files.lookup pageTemplate with
        | some index, some page =>
          .ok ⟨index, page, files.filter fun f => f.1 != indexTemplate && f.1 != pageTemplate⟩
        | _, _ => .error (.incomplete dir)

end Templates

end DocPages
