import DocPages.Command.Run

/-!
# The Program

The outer layer: arguments, variables of the environment and files go in, and what the run printed,
logged and wrote comes out.  The files that a command line looks at are copied from the disk before
the run, and those that the run has changed are written back after it.

A preview answers requests that stand on standard input, one line each, until the input ends.

## Main definitions

- `snapshot`, `saveChanges`: files from the disk and back
- `answerRequests`: a preview
- `main`
-/

namespace DocPages

/-! ## §1 Files -/

/-- The path of a place on the disk. -/
def diskPath (place : Place) : String :=
  "/" ++ "/".intercalate (place.map fun name => (String.fromUTF8? ⟨name.toArray⟩).getD "")

/-- What the disk has at a place. -/
def nodeOnDisk (place : Place) : IO (Option Node) := do
  try
    if ← (← IO.FS.realPath (diskPath place)).isDir then return some .directory
    else return some (.file (← IO.FS.readBinFile (diskPath place)).data.toList)
  catch _ => return none

/-- Copies what the disk has at a place and, if `deep`, below it. -/
partial def copyPlace (deep : Bool) (fs : FileSystem) (place : Place) : IO FileSystem := do
  match ← nodeOnDisk place with
  | none => return fs
  | some node =>
    let mut fs := fs.put place node
    if deep && node = .directory then
      for entry in ← (← IO.FS.realPath (diskPath place)).readDir do
        fs ← copyPlace deep fs (place ++ [bytes entry.fileName])
    return fs

/-- Copies what the disk has along a path and below it. -/
def copyPath (fs : FileSystem) (path : Bytes) : IO FileSystem := do
  let mut fs := fs
  let mut place := fs.startOf path
  for name in FileSystem.namesOf path do
    if name = Path.above then place := place.dropLast
    else if name ≠ Path.here then place := place ++ [name]
    fs ← copyPlace false fs place
  if path.isEmpty then return fs else copyPlace true fs place

/-- The working directory and those that lead to it. -/
def emptyAt (workingDirectory : Place) : FileSystem :=
  ⟨(List.range workingDirectory.length).map fun i => (workingDirectory.take (i + 1), .directory),
    workingDirectory⟩

/-- The files that a command line looks at.  The settings file comes first, since it names others. -/
def snapshot (env : Environment) (line : List Bytes) : IO FileSystem := do
  let workingDirectory := FileSystem.namesOf (bytes (← IO.currentDir).toString)
  let mut fs := emptyAt workingDirectory
  for _ in [0, 1] do
    for path in pathsOf env fs line do
      fs ← copyPath fs path
  return fs

/-- Writes to the disk what a run has changed, older changes first. -/
def saveChanges (before after : FileSystem) : IO Unit := do
  for (place, node) in after.entries.reverse do
    if before.node? place ≠ some node then
      match node with
      | .directory => IO.FS.createDirAll (diskPath place)
      | .file content => IO.FS.writeBinFile (diskPath place) ⟨content.toArray⟩

/-! ## §2 The preview -/

/-- Sends bytes to a stream. -/
def send (stream : IO.FS.Stream) (text : Bytes) : IO Unit := do
  stream.write ⟨text.toArray⟩
  stream.flush

/-- Answers the requests on standard input; `number` counts them. -/
partial def answerRequests (env : Environment) (line : List Bytes) (p : Preview) (number : Nat) :
    IO Unit := do
  let request ← (← IO.getStdin).getLine
  if request.isEmpty then return
  match Http.Request.parse? (Bytes.decimalNat number) (trim (bytes request)) with
  | none =>
    send (← IO.getStdout) (Http.Response.bare 400).text
    answerRequests env line p (number + 1)
  | some request =>
    let fs ← snapshot env line
    let render (g : Generator) : Generator × Attempt :=
      let (g, ran) := g.render false fs
      (g, .ofRan ran)
    let (server, generator, records, response) :=
      p.server.handle (fun _ => ([], [])) (some render) request p.generator
    send (← IO.getStderr) (p.logger.lines records).flatten
    send (← IO.getStdout) response.text
    answerRequests env line { p with server, generator } (number + 1)

/-! ## §3 The run -/

/-- The variables that settings are read from. -/
def readEnvironment : IO Environment := do
  let mut env := []
  for name in settingVariables do
    match ← IO.getEnv name with
    | some value => env := env ++ [(bytes name, bytes value)]
    | none => pure ()
  return env

/-- Runs a command line; the exit code tells whether it failed. -/
def runProgram (line : List Bytes) : IO UInt32 := do
  let env ← readEnvironment
  let fs ← snapshot env line
  let outcome := run env fs line
  saveChanges fs outcome.files
  send (← IO.getStderr) outcome.logged.flatten
  send (← IO.getStdout) outcome.printed
  match outcome.preview with
  | some p => answerRequests env line p 1
  | none => pure ()
  match outcome.error with
  | some e =>
    send (← IO.getStderr) (bytes programName ++ bytes ": " ++ e.message ++ [0x0A])
    return 1
  | none => return 0

end DocPages

/-- The program. -/
def main (arguments : List String) : IO UInt32 := DocPages.runProgram (arguments.map DocPages.bytes)
