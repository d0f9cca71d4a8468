import DocPages.Build
import DocPages.Config
import DocPages.Markdown.Render
import DocPages.Page.TemplateFiles
import DocPages.Publish
import DocPages.Session

/-!
# Generators

A generator turns configured inputs into a site.  Every run reads the inputs afresh, parses them,
renders the site and, as asked, writes it or compares it with what is there.  Runs are numbered.

## Main definitions

- `Inputs`, `Generator.load`: what a run reads
- `RunError`: why a run fails
- `Generator.render`, `Generator.generate`, `Generator.check`: the three kinds of run
-/

namespace DocPages

/-! ## §1 Errors -/

/-- Why a run fails. -/
inductive RunError where
  | script (cause : FileError)
  | readme (cause : FileError)
  | templates (cause : Templates.Error)
  | cancelled
  | parsing (cause : SyntaxError)
  | rendering (cause : SiteError)
  | publishing (cause : Publish.Error)
  deriving DecidableEq, Repr

/-- The wording of an error. -/
def RunError.message : RunError → Bytes
  | .script cause => bytes "read script: " ++ cause.message
  | .readme cause => bytes "read readme: " ++ cause.message
  | .templates cause => cause.message
  | .cancelled => bytes "context canceled"
  | .parsing cause => bytes "parse: " ++ cause.message
  | .rendering cause => bytes "render: " ++ cause.message
  | .publishing cause => cause.message

/-! ## §2 Inputs -/

/-- Everything that a run reads. -/
structure Inputs where
  scripts : List Script
  readme : Bytes
  templates : Templates
  deriving DecidableEq, Repr

/-- A generator: its settings, how it converts text, and how many runs it has started. -/
structure Generator where
  config : Config
  convert : Converter
  runs : Nat

namespace Generator

/-- The generator for some settings. -/
def make (config : Config) : Generator := ⟨config, fun s => .ok (Markdown.toHtml s), 0⟩

/-- Reads one script; blanks around its name do not count. -/
def loadScript (fs : FileSystem) (name : Bytes) : Except FileError Script :=
  match fs.read (trim name) with
  | .ok text => .ok ⟨trim name, text⟩
  | .error cause => .error cause

/-- Reads the scripts in their order, the readme and the templates. -/
def load (config : Config) (fs : FileSystem) : Except RunError Inputs :=
  match config.scripts.mapM (loadScript fs) with
  | .error cause => .error (.script cause)
  | .ok scripts =>
    match fs.read config.readme with
    | .error cause => .error (.readme cause)
    | .ok readme =>
      match Templates.load fs config.template with
      | .error cause => .error (.templates cause)
      | .ok templates => .ok ⟨scripts, readme, templates⟩

/-! ## §3 Rendering -/

/-- The attribute that all records of a build have. -/
def context (b : Build) : List (Bytes × Log.Value) := [(bytes "build_id", .number b.number)]

/-- The record of a failed run. -/
def failure (phase : Status) (e : RunError) : Log.Record :=
  ⟨.error, bytes "generation failed", [(bytes "phase", .text phase.name), (bytes "error", .text e.message)]⟩

/-- The outcome of rendering in a run: the build, the records, and an error or the result. -/
abbrev Outcome := Build × List Log.Record × Except RunError Result

/-- Ends a run with an error in a phase. -/
def stop (b : Build) (records : List Log.Record) (phase : Status) (e : RunError) : Outcome :=
  (b.fail phase e.message, records ++ [failure phase e], .error e)

/-- The record of parsed scripts. -/
def parsedScripts (inputs : Inputs) (t : Tree) : Log.Record :=
  ⟨.info, bytes "parsed scripts", [(bytes "scripts", .number inputs.scripts.length),
    (bytes "entities", .number t.size), (bytes "product", .text t.product)]⟩

/-- The record of a broken link. -/
def brokenLink (l : BrokenLink) : Log.Record :=
  ⟨.warn, bytes "broken link", [(bytes "page", .text l.page), (bytes "href", .text l.href)]⟩

/-- The result of rendering a tree; links are looked at only if the settings say so. -/
def result (g : Generator) (t : Tree) (site : Site) : Result :=
  ⟨t, site, DocPages.digest site.pages, if g.config.verifyLinks then brokenLinks site.pages else []⟩

/-- Parses and renders inputs. -/
def renderInputs (g : Generator) (inputs : Inputs) (b : Build) : Outcome :=
  match parseScripts inputs.scripts with
  | (.error cause, records) => stop (b.enter .parsing) records .parsing (.parsing cause)
  | (.ok t, records) =>
    let records := records ++ [parsedScripts inputs t]
    match Site.build g.convert t inputs.readme inputs.templates g.config.sourceLinkPrefix with
    | .error cause => stop (b.enter .rendering) records .rendering (.rendering cause)
    | .ok site =>
      let r := g.result t site
      ((b.enter .rendering).keep r, records ++ r.broken.map brokenLink, .ok r)

/-- Reads the inputs and renders them. -/
def renderSite (g : Generator) (cancelled : Bool) (fs : FileSystem) (b : Build) : Outcome :=
  let b := b.enter .reading
  match load g.config fs with
  | .error e => stop b [] .reading e
  | .ok inputs =>
    let b := { b with progress := { b.progress with scripts := inputs.scripts.length } }
    if cancelled then stop b [] .reading .cancelled else g.renderInputs inputs b

/-! ## §4 Runs -/

/-- What a run leaves: the build, the records, and the error that ended it. -/
structure Ran where
  build : Build
  records : List Log.Record
  error : Option RunError

/-- A run from its last step, its records carrying the number of the build. -/
def Ran.of (b : Build) (records : List Log.Record) (error : Option RunError) : Ran :=
  ⟨b, records.map (Log.Record.withContext (context b)), error⟩

/-- Starts the next run. -/
def next (g : Generator) : Generator × Build :=
  ({ g with runs := g.runs + 1 }, .start (g.runs + 1))

/-- Renders the site of a started run without writing it. -/
def renderStarted (g : Generator) (cancelled : Bool) (fs : FileSystem) (b : Build) : Ran :=
  match g.renderSite cancelled fs b with
  | (b, records, .error e) => .of b records (some e)
  | (b, records, .ok _) => .of (b.complete "rendered") records none

/-- Renders the site without writing it. -/
def render (g : Generator) (cancelled : Bool) (fs : FileSystem) : Generator × Ran :=
  let (g, b) := g.next
  (g, g.renderStarted cancelled fs b)

/-- The record of a generated site. -/
def generated (output : Bytes) (r : Result) : Log.Record :=
  ⟨.info, bytes "generated documentation", [(bytes "output", .text output),
    (bytes "pages", .number r.site.pages.length), (bytes "digest", .text r.digest)]⟩

/-- Renders the site and writes it to the output directory. -/
def generate (g : Generator) (cancelled : Bool) (fs : FileSystem) : Generator × FileSystem × Ran :=
  let (g, b) := g.next
  match g.renderSite cancelled fs b with
  | (b, records, .error e) => (g, fs, .of b records (some e))
  | (b, records, .ok r) =>
    let b := b.enter .writing
    match Publish.write cancelled g.config.output r.site.pages fs with
    | (fs, written, .error cause) =>
      let (b, records, _) := stop b (records ++ written) .writing (.publishing cause)
      (g, fs, .of b records (some (.publishing cause)))
    | (fs, written, .ok stats) =>
      let b := { b with progress := { b.progress with
        written := stats.written, unchanged := stats.unchanged } }
      (g, fs, .of (b.complete "done") (records ++ written ++ [generated g.config.output r]) none)

/-- The record of a site that is as it should be. -/
def upToDate (output : Bytes) : Log.Record :=
  ⟨.info, bytes "documentation is up to date", [(bytes "output", .text output)]⟩

/-- Renders the site and compares it with the output directory. -/
def check (g : Generator) (cancelled : Bool) (fs : FileSystem) : Generator × Ran :=
  let (g, b) := g.next
  match g.renderSite cancelled fs b with
  | (b, records, .error e) => (g, .of b records (some e))
  | (b, records, .ok r) =>
    let b := b.enter .checking
    match Publish.check g.config.output fs r.site.pages with
    | .error cause =>
      let (b, records, _) := stop b records .checking (.publishing cause)
      (g, .of b records (some (.publishing cause)))
    | .ok () => (g, .of (b.complete "up to date") (records ++ [upToDate g.config.output]) none)

end Generator

end DocPages
