import DocPages.Diff.Unified
import DocPages.FileSystem
import DocPages.Log
import DocPages.Page.Site
import DocPages.Text.Quoted

/-!
# Publishing

The pages of a site are written below an output directory, or compared with the files there.  A page
whose path would leave the directory is refused before anything is written, and a file that holds the
bytes of its page already is left alone.

## Main definitions

- `Publish.pagePath`: where a page belongs
- `Publish.writePage`, `Publish.write`: writing one page, and a site
- `Publish.diffs`, `Publish.check`: comparing a site with the files
-/

namespace DocPages

namespace Publish

/-! ## §1 Errors -/

/-- Why a site is not written, or not as it should be. -/
inductive Error where
  | unsafePath (path : Bytes)
  | outputDirectory (cause : FileError)
  | pageDirectory (path : Bytes) (cause : FileError)
  | writing (path : Bytes) (cause : FileError)
  | reading (path : Bytes) (cause : FileError)
  | outOfDate (diffs : List Bytes)
  | cancelled
  deriving DecidableEq, Repr

/-- The wording of an error. -/
def Error.message : Error → Bytes
  | .unsafePath path => bytes "page path escapes output directory: " ++ quote path
  | .outputDirectory cause => bytes "create output dir: " ++ cause.message
  | .pageDirectory path cause => bytes "create dir for " ++ path ++ bytes ": " ++ cause.message
  | .writing path cause => bytes "write " ++ path ++ bytes ": " ++ cause.message
  | .reading path cause => bytes "read " ++ path ++ bytes ": " ++ cause.message
  | .outOfDate diffs =>
    bytes "generated documentation is out of date: " ++ Bytes.decimalNat diffs.length ++
      bytes " page(s) differ\n" ++ diffs.flatten
  | .cancelled => bytes "context canceled"

/-! ## §2 Writing -/

/-- The path of a page's file below the output directory. -/
def pagePath (dir path : Bytes) : Except Error Bytes :=
  if Path.isLocal path then .ok (Path.join dir path) else .error (.unsafePath path)

/-- How many pages were written, and how many were as they should be. -/
structure Stats where
  written : Nat
  unchanged : Nat
  deriving DecidableEq, Repr

/-- Writes a page unless its file holds the same bytes, and tells whether it was written. -/
def writePage (dir : Bytes) (fs : FileSystem) (page : Page) : FileSystem × Except Error Bool :=
  match pagePath dir page.path with
  | .error e => (fs, .error e)
  | .ok path =>
    if fs.holds path page.content then (fs, .ok false)
    else
      match fs.makeDirectories (Path.directory path) with
      | (fs, some cause) => (fs, .error (.pageDirectory page.path cause))
      | (fs, none) =>
        match fs.write path page.content with
        | .error cause => (fs, .error (.writing page.path cause))
        | .ok fs => (fs, .ok true)

/-- The record of a written page. -/
def wrotePage (page : Page) : Log.Record :=
  ⟨.debug, bytes "wrote page", [(bytes "path", .text page.path),
    (bytes "bytes", .number page.content.length)]⟩

/-- Writes pages in turn until one fails. -/
def writePages (dir : Bytes) (fs : FileSystem) (stats : Stats) :
    List Page → FileSystem × List Log.Record × Except Error Stats
  | [] => (fs, [], .ok stats)
  | page :: rest =>
    match writePage dir fs page with
    | (fs, .error e) => (fs, [], .error e)
    | (fs, .ok true) =>
      let (fs, records, result) := writePages dir fs { stats with written := stats.written + 1 } rest
      (fs, wrotePage page :: records, result)
    | (fs, .ok false) => writePages dir fs { stats with unchanged := stats.unchanged + 1 } rest

/-- The first page that would leave the output directory. -/
def firstUnsafe? (pages : List Page) : Option Page := pages.find? fun p => !Path.isLocal p.path

/-- The record of a written site. -/
def wroteSite (dir : Bytes) (stats : Stats) : Log.Record :=
  ⟨.info, bytes "wrote site", [(bytes "dir", .text dir), (bytes "written", .number stats.written),
    (bytes "unchanged", .number stats.unchanged)]⟩

/-- Writes a site.  A cancelled run makes the output directory but writes no page. -/
def write (cancelled : Bool) (dir : Bytes) (pages : List Page) (fs : FileSystem) :
    FileSystem × List Log.Record × Except Error Stats :=
  match firstUnsafe? pages with
  | some page => (fs, [], .error (.unsafePath page.path))
  | none =>
    match fs.makeDirectories dir with
    | (fs, some cause) => (fs, [], .error (.outputDirectory cause))
    | (fs, none) =>
      if cancelled && !pages.isEmpty then (fs, [], .error .cancelled)
      else
        match writePages dir fs ⟨0, 0⟩ pages with
        | (fs, records, .error e) => (fs, records, .error e)
        | (fs, records, .ok stats) => (fs, records ++ [wroteSite dir stats], .ok stats)

/-! ## §3 Comparing -/

/-- The diff between a page's file and the page, unless they agree.  A missing file counts as an empty
    one with another name. -/
def pageDiff? (dir : Bytes) (fs : FileSystem) (page : Page) : Except Error (Option Bytes) :=
  match pagePath dir page.path with
  | .error e => .error e
  | .ok path =>
    let right := bytes "b/" ++ page.path
    match fs.read path with
    | .ok old =>
      .ok (if old = page.content then none
        else some (Diff.unified (bytes "a/" ++ page.path) right old page.content))
    | .error cause =>
      if cause.fault = .notExist then .ok (some (Diff.unified (bytes "/dev/null") right [] page.content))
      else .error (.reading page.path cause)

/-- The diffs of the pages that differ from their files, in order. -/
def diffs (dir : Bytes) (fs : FileSystem) : List Page → Except Error (List Bytes)
  | [] => .ok []
  | page :: rest =>
    match pageDiff? dir fs page with
    | .error e => .error e
    | .ok found =>
      match diffs dir fs rest with
      | .error e => .error e
      | .ok more => .ok (found.toList ++ more)

/-- Fails unless every page agrees with its file. -/
def check (dir : Bytes) (fs : FileSystem) (pages : List Page) : Except Error Unit :=
  match diffs dir fs pages with
  | .error e => .error e
  | .ok [] => .ok ()
  | .ok found => .error (.outOfDate found)

end Publish

end DocPages
