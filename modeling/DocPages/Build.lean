import DocPages.Digest.Pages
import DocPages.Page.Links
import DocPages.Tree

/-!
# Builds

A build records one run: its number, how far it has come, what it has counted, the errors it met and,
once the site is rendered, the result.

## Main definitions

- `Result`: the outcome of rendering
- `Status`, `Progress`, `Build`
- `Build.advance`, `Build.fail`, `Build.finish`
-/

namespace DocPages

/-- What rendering gives. -/
structure Result where
  tree : Tree
  site : Site
  digest : Bytes
  broken : List BrokenLink

/-- How far a build has come, by name. -/
structure Status where
  name : Bytes
  deriving DecidableEq, Repr

namespace Status

/-- Not started. -/
def queued : Status := ⟨bytes "queued"⟩

/-- Reading the inputs. -/
def reading : Status := ⟨bytes "reading"⟩

/-- Parsing the scripts. -/
def parsing : Status := ⟨bytes "parsing"⟩

/-- Rendering the pages. -/
def rendering : Status := ⟨bytes "rendering"⟩

/-- Writing the pages. -/
def writing : Status := ⟨bytes "writing"⟩

/-- Comparing the pages with the files. -/
def checking : Status := ⟨bytes "checking"⟩

/-- Finished well. -/
def completed : Status := ⟨bytes "completed"⟩

/-- Finished with an error. -/
def failed : Status := ⟨bytes "failed"⟩

end Status

/-- What a build has counted, and the errors it met. -/
structure Progress where
  scripts : Int
  entities : Int
  pages : Int
  written : Int
  unchanged : Int
  brokenLinks : Int
  errors : List Bytes
  deriving DecidableEq, Repr

/-- The record of one run. -/
structure Build where
  number : Int
  status : Status
  /-- The step that a build is in, or ended in. -/
  phase : Bytes
  progress : Progress
  result : Option Result

namespace Build

/-- A build that has not started. -/
def start (number : Int) : Build where
  number
  status := .queued
  phase := Status.queued.name
  progress := ⟨0, 0, 0, 0, 0, 0, []⟩
  result := none

/-- Sets the status and the phase. -/
def setStatus (b : Build) (status : Status) (phase : Bytes) : Build := { b with status, phase }

/-- Enters a phase that has the name of its status. -/
def enter (b : Build) (status : Status) : Build := b.setStatus status status.name

/-- Adds the text of an error. -/
def addError (b : Build) (text : Bytes) : Build :=
  { b with progress := { b.progress with errors := b.progress.errors ++ [text] } }

/-- Ends a build with an error in the phase it is in. -/
def fail (b : Build) (phase : Status) (text : Bytes) : Build :=
  (b.addError text).setStatus .failed phase.name

/-- Ends a build well. -/
def complete (b : Build) (phase : String) : Build := b.setStatus .completed (bytes phase)

/-- Keeps the result of rendering, and counts what is in it. -/
def keep (b : Build) (r : Result) : Build :=
  { b with
    result := some r
    progress := { b.progress with
      entities := r.tree.size
      pages := r.site.pages.length
      brokenLinks := r.broken.length } }

/-- The digest of the result; empty before there is one. -/
def digest (b : Build) : Bytes := (b.result.map Result.digest).getD []

end Build

end DocPages
