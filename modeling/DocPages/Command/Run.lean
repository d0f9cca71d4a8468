import DocPages.Command.Help
import DocPages.Config.File
import DocPages.Config.Validation
import DocPages.Http.Address
import DocPages.Log.Output
import DocPages.Server

/-!
# Running a Command Line

A command line is run over the environment and the files.  It leaves files, what it printed and logged,
and perhaps an error.  A preview that was started goes on from there; it is kept in the outcome.

Settings come from the environment, then from a settings file, then from flags.  Scripts that are named
as arguments follow those of the flag, and together they replace the scripts of the file.

## Main definitions

- `CommandError`: why a command line failed
- `Outcome`
- `pathsOf`: the paths that a command line looks at
- `run`: running a command line
-/

namespace DocPages

/-! ## §1 Outcomes -/

/-- Why a command line failed. -/
inductive CommandError where
  | flags (e : FlagError)
  | argumentCount (wanted given : Nat)
  | noDirectory
  | file (e : FileError)
  | settings (e : Config.FileError)
  | invalid (problems : List Config.Problem)
  | logger (e : Log.LoggerError)
  | generation (e : RunError)
  | listening (e : Http.AddressError)

/-- The wording of an error. -/
def CommandError.message : CommandError → Bytes
  | .flags e => e.message
  | .argumentCount wanted given =>
    bytes "accepts " ++ Bytes.decimalNat wanted ++ bytes " arg(s), received " ++ Bytes.decimalNat given
  | .noDirectory => bytes "target directory is required"
  | .file e => e.message
  | .settings e => e.message
  | .invalid problems => Config.problemsMessage problems
  | .logger e => e.message
  | .generation e => e.message
  | .listening e => bytes "server: " ++ e.message

/-- A preview that is being served. -/
structure Preview where
  server : Server
  generator : Generator
  logger : Log.Logger

/-- What a command line leaves. -/
structure Outcome where
  files : FileSystem
  printed : Bytes
  /-- The lines of the log. -/
  logged : List Bytes
  error : Option CommandError
  preview : Option Preview

namespace Outcome

/-- An outcome that changes no file. -/
def printing (fs : FileSystem) (text : Bytes) : Outcome := ⟨fs, text, [], none, none⟩

/-- A failure that changes no file. -/
def failed (fs : FileSystem) (e : CommandError) : Outcome := ⟨fs, [], [], some e, none⟩

end Outcome

/-! ## §2 Settings -/

/-- Settings overridden by the flags of a command line. -/
def Config.overrideBy (c : Config) (s : Settings) : Config :=
  { c with
    scripts := if s.has "scripts" || !s.arguments.isEmpty then s.texts "scripts" ++ s.arguments
      else c.scripts
    readme := (s.text? "readme").getD c.readme
    output := ((s.text? "output").map trim).getD c.output
    template := (s.text? "template").getD c.template
    sourceLinkPrefix := (s.text? "source-link-prefix").getD c.sourceLinkPrefix
    workers := (s.integer? "workers").getD c.workers
    verifyLinks := (s.truth? "verify-links").getD c.verifyLinks
    logLevel := (s.text? "log-level").getD c.logLevel
    logFormat := (s.text? "log-format").getD c.logFormat
    address := (s.text? "addr").getD c.address }

/-- The settings of a run: those of the environment, of a settings file if one is named, and of the
    flags, each over the ones before. -/
def configure (env : Environment) (fs : FileSystem) (s : Settings) : Except CommandError Config :=
  let c := Config.ofEnvironment env
  let file := (s.text? "config").getD []
  if file.isEmpty then .ok (c.overrideBy s)
  else
    match c.loadFile fs file with
    | .ok c => .ok (c.overrideBy s)
    | .error e => .error (.settings e)

/-! ## §3 Commands -/

/-- Whether settings say nothing about what to do. -/
def Config.isVacant (c : Config) : Bool := c.scripts.isEmpty && c.readme.isEmpty && c.output.isEmpty

/-- The line that tells what was written. -/
def writtenLine (output : Bytes) (p : Progress) : Bytes :=
  bytes "wrote " ++ Bytes.decimal p.written ++ bytes " page(s) to " ++ output ++ bytes " ("
    ++ Bytes.decimal p.unchanged ++ bytes " unchanged)\n"

/-- Generates the pages, or checks that they are up to date. -/
def runGeneration (fs : FileSystem) (c : Config) (check : Bool) (logger : Log.Logger) : Outcome :=
  let g := Generator.make c
  if check then
    let (_, ran) := g.check false fs
    ⟨fs, if ran.error.isNone then bytes "documentation is up to date\n" else [],
      logger.lines ran.records, ran.error.map .generation, none⟩
  else
    let (_, files, ran) := g.generate false fs
    ⟨files, if ran.error.isNone then writtenLine c.output ran.build.progress else [],
      logger.lines ran.records, ran.error.map .generation, none⟩

/-- The root command. -/
def runRoot (env : Environment) (fs : FileSystem) (s : Settings) : Outcome :=
  match configure env fs s with
  | .error e => .failed fs e
  | .ok c =>
    if c.isVacant then .printing fs Command.root.helpText
    else
      match c.validate fs with
      | .error problems => .failed fs (.invalid problems)
      | .ok () =>
        match Log.Logger.make c.logLevel c.logFormat with
        | .error e => .failed fs (.logger e)
        | .ok logger => runGeneration fs c (s.isOn "check") logger

/-- The record of a preview that starts to listen. -/
def serving (address : Bytes) : Log.Record :=
  ⟨.info, bytes "serving documentation", [(bytes "addr", .text address)]⟩

/-- Builds the site and starts to serve it. -/
def startPreview (fs : FileSystem) (c : Config) (logger : Log.Logger) : Outcome :=
  let render (g : Generator) : Generator × Attempt :=
    let (g, ran) := g.render false fs
    (g, .ofRan ran)
  let (server, generator, records, attempt) := Server.idle.rebuild render (Generator.make c)
  match attempt.failure with
  | some (.run e) => ⟨fs, [], logger.lines records, some (.generation e), none⟩
  | _ =>
    let logged := logger.lines (records ++ [serving c.address])
    let printed := bytes "serving on " ++ c.address ++ bytes "\n"
    match Http.checkAddress c.address with
    | .error e => ⟨fs, printed, logged, some (.listening e), none⟩
    | .ok () => ⟨fs, printed, logged, none, some ⟨server, generator, logger⟩⟩

/-- The command that serves a preview. -/
def runServe (env : Environment) (fs : FileSystem) (s : Settings) : Outcome :=
  match configure env fs s with
  | .error e => .failed fs e
  | .ok c =>
    match c.validatePreview fs with
    | .error problems => .failed fs (.invalid problems)
    | .ok () =>
      match Log.Logger.make c.logLevel c.logFormat with
      | .error e => .failed fs (.logger e)
      | .ok logger => startPreview fs c logger

/-- Writes files in order, up to the first that cannot be written. -/
def writeFiles (fs : FileSystem) : List (Bytes × Bytes) → FileSystem × Option FileError
  | [] => (fs, none)
  | (path, text) :: rest =>
    match fs.write path text with
    | .ok fs => writeFiles fs rest
    | .error e => (fs, some e)

/-- The command that writes the reference pages. -/
def runReferences (fs : FileSystem) (s : Settings) : Outcome :=
  match s.arguments with
  | [directory] =>
    if directory.isEmpty then .failed fs .noDirectory
    else
      match fs.makeDirectories directory with
      | (fs, some e) => .failed fs (.file e)
      | (fs, none) =>
        let pages := (Command.referenced ++ [Command.root]).map fun c =>
          (Path.join directory (bytes c.referenceName), c.reference)
        match writeFiles fs pages with
        | (fs, some e) => .failed fs (.file e)
        | (fs, none) => .printing fs []
  | arguments => .failed fs (.argumentCount 1 arguments.length)

/-- The version of the program. -/
def version : Bytes := bytes programName ++ bytes " version dev\n"

/-- Runs a command with the settings of its line.  Help comes before the version, and both before
    anything else. -/
def runCommand (env : Environment) (fs : FileSystem) (c : Command) (s : Settings) : Outcome :=
  if s.isOn "help" then .printing fs c.helpText
  else if s.isOn "version" then .printing fs version
  else
    match c with
    | .root => runRoot env fs s
    | .serve => runServe env fs s
    | .references => runReferences fs s
    | .help => .printing fs (Command.choose s.arguments).1.helpText

/-- The paths that a command line looks at, as far as the files at hand tell. -/
def pathsOf (env : Environment) (fs : FileSystem) (line : List Bytes) : List Bytes :=
  let (c, rest) := Command.choose line
  match readFlags c.flags rest with
  | .error _ => []
  | .ok s =>
    match c with
    | .help => []
    | .references => s.arguments
    | .root | .serve =>
      let file := (s.text? "config").toList
      match configure env fs s with
      | .error _ => file
      | .ok c => file ++ c.scripts ++ [c.readme, c.output, c.template]

/-- Runs a command line. -/
def run (env : Environment) (fs : FileSystem) (line : List Bytes) : Outcome :=
  let (c, rest) := Command.choose line
  match readFlags c.flags rest with
  | .error e => .failed fs (.flags e)
  | .ok s => runCommand env fs c s

end DocPages
