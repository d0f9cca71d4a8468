import DocPages.Config
import DocPages.FileSystem
import DocPages.Text.Quoted

/-!
# Validation of Settings

Before a run starts, its settings are checked against the file system: the scripts and the readme must
be files, the output and the template must be directories, and the rest must have values that the run
understands.  Every problem is found, in the order of the settings, but for one setting only the
first.  A preview writes nothing, so the output is not checked for it.

## Main definitions

- `Config.Problem`: what can be wrong with a setting
- `Config.problems`, `Config.previewProblems`
- `Config.validate`, `Config.validatePreview`
-/

namespace DocPages

namespace Config

/-- What is wrong with a setting. -/
inductive Problem where
  | noScripts
  | missingScript (path : Bytes)
  | noReadme
  | missingReadme (path : Bytes)
  | noOutput
  | missingOutput (path : Bytes)
  | missingTemplate (path : Bytes)
  | negativeWorkers
  | unknownLevel (name : Bytes)
  | unknownFormat (name : Bytes)
  | noAddress
  deriving DecidableEq, Repr

/-- The names of the log levels that may be set. -/
def levelNames : List Bytes := [bytes "debug", bytes "info", bytes "warn", bytes "error"]

/-- The names of the log formats that may be set. -/
def formatNames : List Bytes := [bytes "text", bytes "json"]

/-- The wording for a value that is none of some names. -/
def notOneOf (setting : String) (names : List Bytes) (value : Bytes) : Bytes :=
  bytes setting ++ bytes " must be one of " ++ Bytes.join (bytes ", ") names ++ bytes ", got "
    ++ quote value

/-- The wording of a problem. -/
def Problem.message : Problem → Bytes
  | .noScripts => bytes "at least one script is required"
  | .missingScript path => bytes "script " ++ quote path ++ bytes " does not exist"
  | .noReadme => bytes "readme is required"
  | .missingReadme path => bytes "readme " ++ quote path ++ bytes " does not exist"
  | .noOutput => bytes "output is required"
  | .missingOutput path => bytes "output " ++ quote path ++ bytes " does not exist"
  | .missingTemplate path => bytes "template " ++ quote path ++ bytes " does not exist"
  | .negativeWorkers => bytes "workers must be >= 0"
  | .unknownLevel name => notOneOf "log_level" levelNames name
  | .unknownFormat name => notOneOf "log_format" formatNames name
  | .noAddress => bytes "addr is required"

/-- The wording of several problems. -/
def problemsMessage (problems : List Problem) : Bytes :=
  bytes "invalid configuration: " ++ Bytes.join (bytes "; ") (problems.map Problem.message)

/-- The scripts of which no file can be read. -/
def missingScripts (c : Config) (fs : FileSystem) : List Bytes :=
  c.scripts.filter fun path => !fs.isFile path

/-- The problems with the inputs of a run. -/
def inputProblems (c : Config) (fs : FileSystem) : List Problem :=
  (if c.scripts.isEmpty then [.noScripts] else (c.missingScripts fs).map .missingScript)
    ++ (if c.readme.isEmpty then [.noReadme]
        else if fs.isFile c.readme then [] else [.missingReadme c.readme])

/-- The problem with the output directory. -/
def outputProblems (c : Config) (fs : FileSystem) : List Problem :=
  if c.output.isEmpty then [.noOutput]
  else if fs.leadsToDirectory c.output then [] else [.missingOutput c.output]

/-- The problems with the other settings. -/
def otherProblems (c : Config) (fs : FileSystem) : List Problem :=
  (if c.template.isEmpty || fs.leadsToDirectory c.template then [] else [.missingTemplate c.template])
    ++ (if c.workers < 0 then [.negativeWorkers] else [])
    ++ (if levelNames.contains c.logLevel then [] else [.unknownLevel c.logLevel])
    ++ (if formatNames.contains c.logFormat then [] else [.unknownFormat c.logFormat])
    ++ (if c.address.isEmpty then [.noAddress] else [])

/-- The problems with the settings of a run that writes pages. -/
def problems (c : Config) (fs : FileSystem) : List Problem :=
  c.inputProblems fs ++ c.outputProblems fs ++ c.otherProblems fs

/-- The problems with the settings of a preview. -/
def previewProblems (c : Config) (fs : FileSystem) : List Problem :=
  c.inputProblems fs ++ c.otherProblems fs

/-- Refuses settings that have problems. -/
def refuse : List Problem → Except (List Problem) Unit
  | [] => .ok ()
  | found => .error found

/-- Checks the settings of a run that writes pages. -/
def validate (c : Config) (fs : FileSystem) : Except (List Problem) Unit := refuse (c.problems fs)

/-- Checks the settings of a preview. -/
def validatePreview (c : Config) (fs : FileSystem) : Except (List Problem) Unit :=
  refuse (c.previewProblems fs)

end Config

end DocPages
