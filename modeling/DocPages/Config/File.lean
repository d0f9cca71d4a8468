import DocPages.Config
import DocPages.FileSystem
import DocPages.Text.Quoted
import DocPages.Yaml.Node

/-!
# Settings Files

A settings file is a YAML mapping from the names of settings to their values.  What it mentions
replaces what was set before.  A null leaves a setting as it was, but empties a list.  Unknown names,
repeated names and values of the wrong kind are faults, and all of them are reported together.

## Main definitions

- `Config.Misfit`: an entry that cannot be used
- `Config.FileError`: why a settings file cannot be used
- `Config.loadFile`: settings overlaid with those of a file
-/

namespace DocPages

namespace Config

open Yaml (Document Fault Value)

/-! ## §1 Entries that cannot be used -/

/-- The kind of value that a setting takes. -/
inductive Kind where
  | text
  | integer
  | truth
  | texts
  | settings
  deriving DecidableEq, Repr

/-- The name of a kind in messages. -/
def Kind.name : Kind → Bytes
  | .text => bytes "string"
  | .integer => bytes "int"
  | .truth => bytes "bool"
  | .texts => bytes "[]string"
  | .settings => bytes "config.Config"

/-- An entry that cannot be used, with its line. -/
inductive Misfit where
  | repeatedKey (line : Nat) (key : Bytes) (first : Nat)
  | unknownSetting (line : Nat) (name : Bytes)
  | repeatedSetting (line : Nat) (name : Bytes)
  | wrongKind (line : Nat) (tag value : Bytes) (kind : Kind)
  deriving DecidableEq, Repr

/-- A value as it is shown in a message: a long one is cut, and a collection is not shown. -/
def shownValue (tag value : Bytes) : Bytes :=
  if tag == Yaml.Tag.sequence || tag == Yaml.Tag.mapping then value
  else if 10 < value.length then bytes " `" ++ value.take 7 ++ bytes "...`"
  else bytes " `" ++ value ++ bytes "`"

/-- The wording of a misfit. -/
def Misfit.message : Misfit → Bytes
  | .repeatedKey line key first =>
    bytes "line " ++ Bytes.decimalNat line ++ bytes ": mapping key " ++ quote key
      ++ bytes " already defined at line " ++ Bytes.decimalNat first
  | .unknownSetting line name =>
    bytes "line " ++ Bytes.decimalNat line ++ bytes ": field " ++ name
      ++ bytes " not found in type config.Config"
  | .repeatedSetting line name =>
    bytes "line " ++ Bytes.decimalNat line ++ bytes ": field " ++ name
      ++ bytes " already set in type config.Config"
  | .wrongKind line tag value kind =>
    bytes "line " ++ Bytes.decimalNat line ++ bytes ": cannot unmarshal " ++ Yaml.shortTag tag
      ++ shownValue tag value ++ bytes " into " ++ kind.name

/-- Why a settings file cannot be used. -/
inductive FileError where
  | unopened (e : DocPages.FileError)
  | unread (path : Bytes) (e : DocPages.FileError)
  | malformed (path : Bytes) (fault : Fault)
  | misfits (path : Bytes) (found : List Misfit)
  deriving DecidableEq, Repr

/-- The wording of an error. -/
def FileError.message : FileError → Bytes
  | .unopened e => bytes "open config: " ++ e.message
  | .unread path e => bytes "parse config " ++ path ++ bytes ": yaml: input error: " ++ e.message
  | .malformed path fault => bytes "parse config " ++ path ++ bytes ": " ++ fault.message
  | .misfits path found =>
    bytes "parse config " ++ path ++ bytes ": yaml: unmarshal errors:\n  "
      ++ Bytes.join (bytes "\n  ") (found.map Misfit.message)

/-! ## §2 Values of settings -/

/-- Reading collects misfits and stops at a fault. -/
abbrev Read := StateT (List Misfit) (Except Fault)

/-- Notes a misfit. -/
def note (m : Misfit) : Read Unit := modify (· ++ [m])

/-- The node that an alias stands for; every other node stands for itself. -/
def follow (doc : Document) : Yaml.Node → Yaml.Node
  | .alias _ _ _ target => (doc.anchored.lookup target).getD default
  | n => n

/-- What tells the keys of a mapping apart: the kind of node and its text. -/
def keyMark : Yaml.Node → Nat × Bytes
  | .scalar _ _ value => (0, value)
  | .sequence .. => (1, [])
  | .mapping .. => (2, [])
  | .alias _ _ name _ => (3, name)

/-- The line of a node. -/
def lineOf : Yaml.Node → Nat
  | .scalar line _ _ | .sequence line _ _ | .mapping line _ _ | .alias line _ _ _ => line

/-- Every later key that repeats an earlier one. -/
def repeatedKeys : List Yaml.Node → List Misfit
  | [] => []
  | key :: rest =>
    (rest.filter fun other => keyMark other == keyMark key).map (fun other =>
      .repeatedKey (lineOf other) (keyMark other).2 (lineOf key)) ++ repeatedKeys rest

/-- Notes the repeated keys of a mapping, and tells whether there are none. -/
def distinctKeys (entries : List (Yaml.Node × Yaml.Node)) : Read Bool := do
  let found := repeatedKeys (entries.map Prod.fst)
  found.forM note
  pure found.isEmpty

/-- Notes that a scalar, a sequence or a mapping stands where another kind is wanted. -/
def refuseCollection (kind : Kind) : Yaml.Node → Read Unit
  | .mapping line tag entries => do
    if ← distinctKeys entries then note (.wrongKind line tag [] kind)
  | .sequence line tag _ => note (.wrongKind line tag [] kind)
  | _ => pure ()

/-- What a scalar reads as; a tag for bytes asks for base 64. -/
def scalarValue (tag value : Bytes) : Read Value := do
  match Yaml.resolve tag value with
  | .error fault => throw fault
  | .ok (.tagged tag s) =>
    if tag == Yaml.Tag.binary then
      match Yaml.base64? s with
      | some decoded => pure (.tagged tag decoded)
      | none => throw (.anywhere .badBase64)
    else pure (.tagged tag s)
  | .ok v => pure v

/-- Reads a text; every scalar but null is one, as it is written. -/
def readText (doc : Document) (n : Yaml.Node) : Read (Option Bytes) := do
  match follow doc n with
  | .scalar _ tag value =>
    match ← scalarValue tag value with
    | .null => pure none
    | .tagged tag decoded => pure (some (if tag == Yaml.Tag.binary then decoded else value))
    | _ => pure (some value)
  | other => refuseCollection .text other; pure none

/-- Reads an integer; a fraction is cut off. -/
def readInteger (doc : Document) (n : Yaml.Node) : Read (Option Int) := do
  match follow doc n with
  | .scalar line tag value =>
    let refuse : Read (Option Int) := do note (.wrongKind line tag value .integer); pure none
    match ← scalarValue tag value with
    | .null => pure none
    | .integer k => if k < Numeral.wordLimit then pure (some k) else refuse
    | .fraction (some k) => pure (some k)
    | _ => refuse
  | other => refuseCollection .integer other; pure none

/-- The truth value that a word means where one is wanted. -/
def truthWord? (s : Bytes) : Option Bool :=
  if ["y", "Y", "yes", "on"].any fun w => bytes w == s then some true
  else if ["n", "N", "no", "off"].any fun w => bytes w == s then some false
  else none

/-- Reads a truth value. -/
def readTruth (doc : Document) (n : Yaml.Node) : Read (Option Bool) := do
  match follow doc n with
  | .scalar line tag value =>
    let word (s : Bytes) : Read (Option Bool) := do
      match truthWord? s with
      | some b => pure (some b)
      | none => note (.wrongKind line tag value .truth); pure none
    match ← scalarValue tag value with
    | .null => pure none
    | .truth b => pure (some b)
    | .text s | .tagged _ s => word s
    | _ => note (.wrongKind line tag value .truth); pure none
  | other => refuseCollection .truth other; pure none

/-- Reads a list of texts; null is the empty list, and an item that is no text is left out. -/
def readTexts (doc : Document) (n : Yaml.Node) : Read (Option (List Bytes)) := do
  match follow doc n with
  | .sequence _ _ items => do
    let found ← items.mapM (readText doc)
    pure (some (found.filterMap id))
  | .scalar line tag value => do
    match ← scalarValue tag value with
    | .null => pure (some [])
    | _ => note (.wrongKind line tag value .texts); pure none
  | other => refuseCollection .texts other; pure none

/-! ## §3 Settings -/

/-- Replaces one setting by the value of a node; nothing if no setting has that name. -/
def set? (doc : Document) (c : Config) (name : Bytes) (n : Yaml.Node) : Option (Read Config) :=
  let text (update : Bytes → Config) : Option (Read Config) :=
    some do
      let v ← readText doc n
      pure (v.elim c update)
  if name == bytes "scripts" then
    some do
      let v ← readTexts doc n
      pure (v.elim c fun v => { c with scripts := v })
  else if name == bytes "readme" then text fun v => { c with readme := v }
  else if name == bytes "output" then text fun v => { c with output := v }
  else if name == bytes "template" then text fun v => { c with template := v }
  else if name == bytes "source_link_prefix" then text fun v => { c with sourceLinkPrefix := v }
  else if name == bytes "workers" then
    some do
      let v ← readInteger doc n
      pure (v.elim c fun v => { c with workers := v })
  else if name == bytes "verify_links" then
    some do
      let v ← readTruth doc n
      pure (v.elim c fun v => { c with verifyLinks := v })
  else if name == bytes "log_level" then text fun v => { c with logLevel := v }
  else if name == bytes "log_format" then text fun v => { c with logFormat := v }
  else if name == bytes "addr" then text fun v => { c with address := v }
  else none

/-- The key whose value is merged into its mapping. -/
def isMerge : Yaml.Node → Bool
  | .scalar _ tag value => value == bytes "<<" && tag == Yaml.Tag.merge
  | _ => false

/-- The settings so far, with the names set in this mapping and, inside a merged mapping, the names
    that are already set around it. -/
structure Progress where
  config : Config
  done : List Bytes
  outer : Option (List Bytes)

/-- Applies one entry of a mapping. -/
def applyEntry (doc : Document) (p : Progress) (entry : Yaml.Node × Yaml.Node) : Read Progress := do
  if isMerge entry.1 then return p
  let name ← readText doc entry.1
  match name with
  | none => pure p
  | some name =>
    if p.outer.any fun names => names.contains name then pure p
    else
      let p := { p with outer := p.outer.map (name :: ·) }
      match set? doc p.config name entry.2 with
      | none => note (.unknownSetting (lineOf entry.1) name); pure p
      | some update =>
        if p.done.contains name then
          note (.repeatedSetting (lineOf entry.1) name)
          pure p
        else
          let c ← update
          pure { p with config := c, done := name :: p.done }

/-- The texts of the keys of a mapping. -/
def keyTexts (doc : Document) (entries : List (Yaml.Node × Yaml.Node)) : List Bytes :=
  entries.filterMap fun (key, _) =>
    match follow doc key with
    | .scalar _ _ value => some value
    | _ => none

/-- The mappings that a merge asks for: one mapping, or a sequence of them. -/
def mergeParts (doc : Document) (n : Yaml.Node) : Read (List Yaml.Node) := do
  match n with
  | .sequence _ _ items =>
    if items.all fun item => match follow doc item with | .mapping .. => true | _ => false then
      pure items
    else throw (.anywhere .mergeOfNoMapping)
  | _ =>
    match follow doc n with
    | .mapping .. => pure [n]
    | _ => throw (.anywhere .mergeOfNoMapping)

/-- Applies a node to settings.  `outer` holds the names that are already set around a merged mapping,
    and `open` the aliases whose nodes are being applied. -/
def apply (doc : Document) : Nat → List Nat → Option (List Bytes) → Config → Yaml.Node →
    Read (Config × Option (List Bytes))
  | 0, _, outer, c, _ => pure (c, outer)
  | fuel + 1, opened, outer, c, n => do
    match n with
    | .alias _ position name target =>
      if opened.contains position then throw (.anywhere (.insideItself name))
      apply doc fuel (position :: opened) outer c ((doc.anchored.lookup target).getD default)
    | .scalar line tag value =>
      match ← scalarValue tag value with
      | .null => pure (c, outer)
      | _ => note (.wrongKind line tag value .settings); pure (c, outer)
    | .sequence line tag _ => note (.wrongKind line tag [] .settings); pure (c, outer)
    | .mapping _ _ entries =>
      if !(← distinctKeys entries) then return (c, outer)
      let p ← entries.foldlM (applyEntry doc) ⟨c, [], outer⟩
      match entries.find? fun entry => isMerge entry.1 with
      | none => pure (p.config, p.outer)
      | some (_, merged) =>
        let parts ← mergeParts doc merged
        let names := p.outer.getD (keyTexts doc entries)
        let (c, names) ← parts.foldlM
          (fun (c, names) part => apply doc fuel opened names c part) (p.config, some names)
        pure (c, if p.outer.isSome then names else none)

/-- Settings overlaid with a document. -/
def overlay (c : Config) (doc : Document) : Except Fault (Config × List Misfit) := do
  let ((c, _), misfits) ← (apply doc (doc.size * doc.size + 2) [] none c doc.root).run []
  .ok (c, misfits)

/-- Settings overlaid with the text of a file. -/
def loadText (c : Config) (path text : Bytes) : Except FileError Config :=
  match Yaml.document? text with
  | .error fault => .error (.malformed path fault)
  | .ok none => .ok c
  | .ok (some doc) =>
    match c.overlay doc with
    | .error fault => .error (.malformed path fault)
    | .ok (c, []) => .ok c
    | .ok (_, found) => .error (.misfits path found)

/-- Settings overlaid with those of a file. -/
def loadFile (c : Config) (fs : FileSystem) (path : Bytes) : Except FileError Config :=
  match fs.read path with
  | .ok text => c.loadText path text
  | .error e => .error (if e.operation == bytes "open" then .unopened e else .unread path e)

end Config

end DocPages
