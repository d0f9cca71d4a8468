import DocPages.Comment
import DocPages.Tree
import DocPages.Log

/-!
# Reading Scripts

A session reads scripts in order and grows one tree.  It remembers the entity that was declared
last in the open block: prose and argument notes belong to it.  A block's end and a script's end
close it.  The first declaration with unreadable arguments ends the session.

## Main definitions

- `Session`, `Session.step`: the state and what one line does to it
- `SyntaxError`: the first unreadable declaration and its place
- `parseScripts`: the tree of a list of scripts
-/

namespace DocPages

open Log (Record Value)

/-- An unreadable declaration: its script, line number and text, and what is wrong with it. -/
structure SyntaxError where
  source : Bytes
  line : Nat
  text : Bytes
  cause : MalformedSignature
  deriving DecidableEq, Repr

/-- The wording of a syntax error. -/
def SyntaxError.message (e : SyntaxError) : Bytes :=
  e.source ++ bytes ":" ++ Bytes.decimalNat e.line ++ bytes ": " ++ e.cause.message ++
    bytes " in " ++ quote e.text

/-- The state of reading: the tree so far, the entity that prose belongs to, and the records. -/
structure Session where
  tree : Tree
  current : Option Handle
  records : List Record
  deriving Repr

namespace Session

/-- The state before any script. -/
def start : Session := ⟨.empty, none, []⟩

/-- Adds a record. -/
def note (s : Session) (r : Record) : Session := { s with records := s.records ++ [r] }

/-- Ends the current entity, so that later prose does not belong to it. -/
def close (s : Session) : Session := { s with current := none }

/-! ## §1 Records -/

/-- The record of a declaration whose class is unknown. -/
def ownerMissing (d : Declaration) (source : Bytes) (line : Nat) : Record :=
  ⟨.warn, bytes "owning class not found, attaching at top level",
    [(bytes "key", .text d.key), (bytes "class", .text d.classKey),
      (bytes "source", .text source), (bytes "line", .number line)]⟩

/-- The record of an entity that takes over a key. -/
def keyReplaced (new old : Entity) : Record :=
  ⟨.warn, bytes "duplicate key replaces earlier declaration",
    [(bytes "key", .text new.key), (bytes "kind", .text new.kind.name),
      (bytes "previous_kind", .text old.kind.name), (bytes "previous_source", .text old.source),
      (bytes "previous_line", .number old.line), (bytes "source", .text new.source),
      (bytes "line", .number new.line)]⟩

/-- The record of a note about an argument that does not exist. -/
def argumentUnknown (n : ArgumentNote) (key source : Bytes) (line : Nat) : Record :=
  ⟨.debug, bytes "argument info for unknown argument",
    [(bytes "argument", .text n.name), (bytes "entity", .text key),
      (bytes "source", .text source), (bytes "line", .number line)]⟩

/-! ## §2 One line -/

/-- Adds a new entity to the tree and makes it the current one. -/
def declare (s : Session) (e : Entity) (owner : Option Handle) : Session :=
  let (tree, h) := s.tree.create e
  let (tree, old?) := tree.attach h owner
  let s := { s with tree, current := some h }
  match old? with
  | none => s
  | some old => s.note (keyReplaced (tree.entity h) (tree.entity old))

/-- The arguments of a declaration, numbered from zero and not yet annotated. -/
def numberArguments (n : Nat) : List Parameter → List Argument
  | [] => []
  | p :: rest => ⟨p.name, p.required, n, p.default, [], []⟩ :: numberArguments (n + 1) rest

/-- The signature of a declaration under the class that was found for it. -/
def signature (t : Tree) (d : Declaration) (owner : Option Handle) : Signature :=
  ⟨(owner.map fun h => (t.entity h).key).getD [], numberArguments 0 d.parameters, d.returns⟩

/-- Finds the class of a declaration, with a record when there is none. -/
def resolveOwner (s : Session) (d : Declaration) (source : Bytes) (line : Nat) :
    Session × Option Handle :=
  match s.tree.class? d.classKey with
  | some h => (s, some h)
  | none => (s.note (ownerMissing d source line), none)

/-- The state after a constructor line: another form of the class's constructor when it has one,
    else a new constructor. -/
def constructorLine (s : Session) (d : Declaration) (source : Bytes) (line : Nat) : Session :=
  let (s, owner) := s.resolveOwner d source line
  match owner.bind s.tree.constructor? with
  | some existing =>
    { s with tree := s.tree.modify existing (·.addAlias d.key), current := some existing }
  | none =>
    s.declare ⟨d.key, [], source, line, .constructorBody (signature s.tree d owner) [d.key]⟩ owner

/-- The state after a method line. -/
def methodLine (s : Session) (static : Bool) (d : Declaration) (source : Bytes) (line : Nat) :
    Session :=
  let (s, owner) := s.resolveOwner d source line
  s.declare ⟨d.key, [], source, line, .methodBody static (signature s.tree d owner)⟩ owner

/-- The state after an argument note. -/
def noteLine (s : Session) (n : ArgumentNote) (source : Bytes) (line : Nat) : Session :=
  match s.current with
  | none => s
  | some h =>
    let e := s.tree.entity h
    match e.signature? with
    | none => s
    | some signature =>
      match signature.annotate? n with
      | some annotated => { s with tree := s.tree.modify h (·.withSignature annotated) }
      | none => s.note (argumentUnknown n e.key source line)

/-- The state after a line of prose. -/
def proseLine (s : Session) (text : Bytes) : Session :=
  match s.current with
  | none => s
  | some h => { s with tree := s.tree.modify h (·.appendLine text) }

/-- What one line does to the state. -/
def step (s : Session) (l : Line) (source : Bytes) (line : Nat) : Session :=
  match l with
  | .prose text => s.proseLine text
  | .classLine key => s.declare ⟨key, [], source, line, .classBody []⟩ none
  | .constructorLine d => s.constructorLine d source line
  | .instanceMethodLine d => s.methodLine false d source line
  | .classMethodLine d => s.methodLine true d source line
  | .noteLine n => s.noteLine n source line

/-! ## §3 Scripts -/

/-- Reads the block lines of a script up to the first unreadable declaration. -/
def readLines (source : Bytes) : List BlockLine → Session → Session × Option SyntaxError
  | [], s => (s, none)
  | l :: rest, s =>
    match Line.classify l.text with
    | .error cause => (s, some ⟨source, l.number, l.text, cause⟩)
    | .ok line =>
      let s := s.step line source l.number
      readLines source rest (if l.closing then s.close else s)

/-- Takes the product's name from a script that has a banner. -/
def readBanner (s : Session) (text : Bytes) : Session :=
  match productName? text with
  | some product => { s with tree := { s.tree with product } }
  | none => s

/-- Reads one script. -/
def readScript (s : Session) (script : Script) : Session × Option SyntaxError :=
  match readLines script.name (blockLines script.text) (s.readBanner script.text) with
  | (s, none) => (s.close, none)
  | (s, some e) => (s, some e)

/-- Reads scripts in order up to the first error. -/
def readScripts : List Script → Session → Session × Option SyntaxError
  | [], s => (s, none)
  | script :: rest, s =>
    match s.readScript script with
    | (s, none) => readScripts rest s
    | (s, some e) => (s, some e)

end Session

/-- The record of a finished session. -/
def scriptsParsed (count : Nat) (t : Tree) : Record :=
  ⟨.debug, bytes "parsed scripts",
    [(bytes "scripts", .number count), (bytes "entities", .number t.size)]⟩

/-- The tree of a list of scripts, or the first unreadable declaration, with the records either way. -/
def parseScripts (scripts : List Script) : Except SyntaxError Tree × List Record :=
  match Session.readScripts scripts .start with
  | (s, some e) => (.error e, s.records)
  | (s, none) => (.ok s.tree, s.records ++ [scriptsParsed scripts.length s.tree])

end DocPages
