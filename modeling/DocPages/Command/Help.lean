import DocPages.Command.Flag

/-!
# Commands and Their Help

The program has one root command, which generates the pages, and three below it: one that serves a
preview, one that writes reference pages about the commands themselves, and one that shows help.
Help texts and reference pages are written from one description of each command.

## Main definitions

- `Command`
- `Command.helpText`: the help text of a command
- `Command.reference`: the reference page of a command, in Markdown
-/

namespace DocPages

/-! ## §1 Commands -/

/-- The name of the program. -/
def programName : String := "flagdoc"

/-- The commands. -/
inductive Command where
  | root
  | references
  | help
  | serve
  deriving DecidableEq, Repr

namespace Command

/-- The commands below the root, in the order of their names. -/
def subcommands : List Command := [.references, .help, .serve]

/-- The name of a command. -/
def name : Command → String
  | .root => programName
  | .references => "gen-docs"
  | .help => "help"
  | .serve => "serve"

/-- The command with its parents' names. -/
def path : Command → String
  | .root => programName
  | c => programName ++ " " ++ c.name

/-- How a command is called. -/
def useLine (c : Command) : String :=
  c.path ++ match c with
    | .root | .serve => " [flags] [script...]"
    | .references => " [directory] [flags]"
    | .help => " [command] [flags]"

/-- What a command does, in one line. -/
def summary : Command → String
  | .root => "Generate HTML API documentation from JavaScript doc comments"
  | .references => "Generate Markdown reference docs for the CLI"
  | .help => "Help about any command"
  | .serve => "Build the documentation in memory and serve it over HTTP"

/-- What a command does, at length. -/
def description (c : Command) : List String :=
  match c with
  | .root =>
    ["flagdoc generates cross-linked HTML API reference pages from documentation",
      "comments in JavaScript sources. Blocks open with /*? and close with **/;",
      "inside them, lines declare classes, constructors, instance methods",
      "(Class#method) and class methods (Class.method), followed by argument notes",
      "(\"- name (Type) - text\") and free Markdown prose.",
      "",
      "Inputs can come from flags, FLAGDOC_* environment variables or a YAML file",
      "given with --config. Flags win over the file, the file wins over the",
      "environment. Scripts named as arguments are added after any --scripts",
      "entries, and together they replace the scripts listed in the file or the",
      "environment."]
  | .references =>
    ["Write a Markdown file per command (suitable for publishing CLI docs).", "", "Example:", "",
      "  flagdoc gen-docs ./docs/cli"]
  | .help =>
    ["Help provides help for any command in the application.",
      "Simply type flagdoc help [path to command] for full details."]
  | .serve =>
    ["Build the site without writing it and serve it for preview.",
      "POST /api/rebuild re-reads the inputs after editing them."]

/-! ## §2 Flags -/

/-- The flags that every command takes. -/
def sharedFlags : List Flag :=
  [⟨"config", none, .text, "YAML config file"⟩,
    ⟨"log-format", none, .text, "log format: text or json"⟩,
    ⟨"log-level", none, .text, "log level: debug, info, warn or error"⟩,
    ⟨"readme", none, .text, "Markdown readme shown on the index page"⟩,
    ⟨"scripts", none, .texts, "comma-separated script files, parsed in order"⟩,
    ⟨"source-link-prefix", none, .text, "prefix for links to the documented source lines"⟩,
    ⟨"template", none, .text, "directory with index.html and page.html templates"⟩,
    ⟨"verify-links", none, .truth, "warn about relative links to pages that were not generated"⟩]

/-- The flags that only one command takes. -/
def ownFlags : Command → List Flag
  | .root =>
    [⟨"check", none, .truth, "fail with a diff instead of writing when the output is out of date"⟩,
      ⟨"output", some 'o', .text, "existing directory to write pages to"⟩,
      ⟨"workers", none, .integer, "maximum concurrent page writes"⟩]
  | .serve => [⟨"addr", none, .text, "listen address (default :8090)"⟩]
  | .references | .help => []

/-- The flag that asks for help. -/
def helpFlag (c : Command) : Flag := ⟨"help", some 'h', .truth, "help for " ++ c.name⟩

/-- The flag that asks for the version, which only the root takes. -/
def versionFlags : Command → List Flag
  | .root => [⟨"version", some 'v', .truth, "version for " ++ programName⟩]
  | _ => []

/-- The flags that a command knows before it is chosen. -/
def knownFlags (c : Command) : List Flag := c.ownFlags ++ sharedFlags

/-- The flags that a command takes. -/
def flags (c : Command) : List Flag := c.helpFlag :: c.versionFlags ++ c.knownFlags

/-- Flags in the order of their names. -/
def sorted (flags : List Flag) : List Flag :=
  flags.mergeSort fun f g => Bytes.le (bytes f.name) (bytes g.name)

/-- The flags that are a command's own in its help; those of the root are its own too. -/
def localFlags (c : Command) (more : List Flag) : List Flag :=
  sorted (c.helpFlag :: more ++ c.ownFlags ++ (if c = .root then sharedFlags else []))

/-- The flags that a command has from its parent. -/
def inheritedFlags (c : Command) : List Flag := if c = .root then [] else sharedFlags

/-! ## §3 Help -/

/-- The name of a kind of value in a flag's line. -/
def kindText : FlagKind → String
  | .text => " string"
  | .texts => " strings"
  | .integer => " int"
  | .truth => ""

/-- A flag with its letter and the kind of its value. -/
def flagHead (f : Flag) : String :=
  (match f.letter with
    | some c => "  -" ++ String.singleton c ++ ", --"
    | none => "      --") ++ f.name ++ kindText f.kind

/-- A text with spaces up to a width. -/
def padded (s : String) (width : Nat) : String :=
  s ++ String.ofList (List.replicate (width - s.length) ' ')

/-- The lines of flags, their usages in one column. -/
def flagLines (flags : List Flag) : List String :=
  let width := (flags.map fun f => (flagHead f).length).foldl max 0
  flags.map fun f => padded (flagHead f) (width + 3) ++ f.usage

/-- The section of a help text with the flags under a title; nothing without flags. -/
def flagSection (title : String) (flags : List Flag) : List String :=
  if flags.isEmpty then [] else ["", title] ++ flagLines flags

/-- The width of the column of command names. -/
def nameWidth : Nat := 12

/-- The help text of a command. -/
def helpText (c : Command) : Bytes :=
  let usage := ["", "Usage:", "  " ++ c.useLine]
  let below :=
    if c = .root then
      ["  " ++ c.path ++ " [command]", "", "Available Commands:"]
        ++ subcommands.map fun s => "  " ++ padded s.name nameWidth ++ s.summary
    else []
  let more :=
    if c = .root then ["", "Use \"" ++ c.path ++ " [command] --help\" for more information about a command."]
    else []
  let lines := c.description ++ usage ++ below ++ flagSection "Flags:" (c.localFlags c.versionFlags)
    ++ flagSection "Global Flags:" c.inheritedFlags ++ more
  lines.flatMap fun line => bytes line ++ [0x0A]

/-! ## §4 Reference pages -/

/-- The name of the file with a command's reference page. -/
def referenceName (c : Command) : String :=
  match c with
  | .root => programName ++ ".md"
  | _ => programName ++ "_" ++ c.name ++ ".md"

/-- Lines set as code. -/
def codeBlock (lines : List String) : List String := ["```"] ++ lines ++ ["```", ""]

/-- The line that points to another command's page. -/
def referenceLink (c : Command) : String :=
  "* [" ++ c.path ++ "](" ++ c.referenceName ++ ")\t - " ++ c.summary

/-- The commands below the root that have a reference page. -/
def referenced : List Command := [.references, .serve]

/-- The reference page of a command, in Markdown. -/
def reference (c : Command) : Bytes :=
  let inherited := c.inheritedFlags
  let lines := ["## " ++ c.path, "", c.summary, "", "### Synopsis", ""] ++ c.description ++ [""]
    ++ codeBlock [c.useLine] ++ ["### Options", ""] ++ codeBlock (flagLines (c.localFlags []))
    ++ (if inherited.isEmpty then []
        else ["### Options inherited from parent commands", ""] ++ codeBlock (flagLines inherited))
    ++ ["### SEE ALSO", ""]
    ++ (if c = .root then referenced.map referenceLink else [referenceLink .root]) ++ [""]
  lines.flatMap fun line => bytes line ++ [0x0A]

/-! ## §5 Choosing a command -/

/-- Whether an argument is a flag that takes the next argument as its value, as far as the flags are
    known; an unknown flag is taken to do so. -/
def takesNext (flags : List Flag) (argument : Bytes) : Bool :=
  !argument.contains (byte '=') &&
    match argument with
    | 0x2D :: 0x2D :: name => !(flagNamed? flags name).any Flag.isSwitch
    | [0x2D, letter] => !(flagLettered? flags letter).any Flag.isSwitch
    | _ => false

/-- The first argument that is no flag and no value of one; `skip` tells that the next argument is a
    value. -/
def firstArgument? (flags : List Flag) : Bool → List Bytes → Option Bytes
  | _, [] => none
  | true, _ :: rest => firstArgument? flags false rest
  | false, argument :: rest =>
    if argument == bytes "--" then none
    else if takesNext flags argument then
      if rest.length ≤ 1 then none else firstArgument? flags true rest
    else if argument.isEmpty || argument.head? == some (byte '-') then firstArgument? flags false rest
    else some argument

/-- A command line without the first argument that is a word, flags and their values apart. -/
def without (flags : List Flag) (word : Bytes) : Bool → List Bytes → List Bytes
  | _, [] => []
  | true, value :: rest => value :: without flags word false rest
  | false, argument :: rest =>
    if argument == bytes "--" then argument :: rest
    else if takesNext flags argument then argument :: without flags word true rest
    else if argument.head? != some (byte '-') && argument == word then rest
    else argument :: without flags word false rest

/-- The command that a command line is for, with the rest of the line. -/
def choose (line : List Bytes) : Command × List Bytes :=
  let flags := Command.root.knownFlags
  match firstArgument? flags false line with
  | none => (.root, line)
  | some word =>
    match subcommands.find? fun c => bytes c.name == word with
    | some c => (c, without flags word false line)
    | none => (.root, line)

end Command

end DocPages
