import DocPages.Yaml.Resolve
import DocPages.Yaml.Token

/-!
# YAML Nodes

The tokens of the first document are assembled into one node: a scalar, a sequence, a mapping, or an
alias for a node that has an anchor.  What follows the first document is not read.

## Main definitions

- `Yaml.Node`, `Yaml.Document`
- `Yaml.document?`: the first document of a file
-/

namespace DocPages

namespace Yaml

/-! ## §1 Nodes -/

/-- A value in a document, with the line it begins on and the tag that names its kind. -/
inductive Node where
  | scalar (line : Nat) (tag value : Bytes)
  | sequence (line : Nat) (tag : Bytes) (items : List Node)
  | mapping (line : Nat) (tag : Bytes) (entries : List (Node × Node))
  /-- An alias, told apart by the position of its token, for the anchored node with a number. -/
  | alias (line position : Nat) (name : Bytes) (target : Nat)
  deriving Inhabited

/-- A document: its node, and the nodes with an anchor under their numbers. -/
structure Document where
  root : Node
  anchored : List (Nat × Node)
  /-- The number of tokens, which bounds the number of nodes. -/
  size : Nat

/-- How far the assembling of a document has come. -/
structure Assembly where
  tokens : Tokens
  position : Nat
  /-- Handles with what they stand for. -/
  handles : List (Bytes × Bytes)
  /-- Anchors, the latest first, with the number of their node. -/
  anchors : List (Bytes × Nat)
  /-- The anchored nodes that are complete. -/
  anchored : List (Nat × Node)

/-- Assembling may fail. -/
abbrev Assemble := StateT Assembly (Except Fault)

namespace Assemble

/-- The next token. -/
def peek : Assemble Token := do
  let a ← get
  match a.tokens.get a.position with
  | .ok t => pure t
  | .error fault => throw fault

/-- Passes the next token. -/
def skip : Assemble Unit := modify fun a => { a with position := a.position + 1 }

/-- A fault with the order of tokens. -/
def fail {α : Type} (problem : Problem) (context place : Mark) : Assemble α :=
  throw (.inStructure problem context place)

/-- The place of a fault that has no construct around it. -/
def noContext : Mark := ⟨0, 0, 0⟩

/-! ## §2 Properties of a node -/

/-- The anchor and the tag that stand before a node. -/
structure Properties where
  anchor : Option Bytes
  /-- The handle and the suffix of the tag, with its place. -/
  tag : Option (Bytes × Bytes × Mark)

/-- Reads an anchor and a tag, in either order, if they are there. -/
def properties : Assemble Properties := do
  let t ← peek
  match t.kind with
  | .anchor name =>
    skip
    let u ← peek
    match u.kind with
    | .tag handle suffix => skip; pure ⟨some name, some (handle, suffix, u.start)⟩
    | _ => pure ⟨some name, none⟩
  | .tag handle suffix =>
    skip
    let u ← peek
    match u.kind with
    | .anchor name => skip; pure ⟨some name, some (handle, suffix, t.start)⟩
    | _ => pure ⟨none, some (handle, suffix, t.start)⟩
  | _ => pure ⟨none, none⟩

/-- The full tag that a handle and a suffix spell; empty if none is given. -/
def fullTag (start : Mark) : Option (Bytes × Bytes × Mark) → Assemble Bytes
  | none => pure []
  | some ([], suffix, _) => pure suffix
  | some (handle, suffix, place) => do
    match (← get).handles.lookup handle with
    | some expansion =>
      let tag := expansion ++ suffix
      if tag.isEmpty then fail .undefinedHandle start place else pure tag
    | none => fail .undefinedHandle start place

/-- The tag of a node: the one that is given in its short form, or else another. -/
def tagOr (given fallback : Bytes) : Bytes :=
  if given.isEmpty || given == bytes "!" then fallback else shortTag given

/-- A scalar; a plain one without a tag is of the kind that it reads as. -/
def scalar (line : Nat) (tag text : Bytes) (plain : Bool) : Node :=
  let fallback :=
    if !plain then Tag.text else if text == bytes "<<" then Tag.merge else (resolvePlain text).tag
  .scalar line (tagOr tag fallback) text

/-- An empty scalar at a place. -/
def emptyScalar (place : Mark) : Node := scalar (place.line + 1) [] [] true

/-- The number for a node with an anchor, taken before the node is read, so that an alias inside it
    means it. -/
def reserve : Option Bytes → Assemble (Option Nat)
  | none => pure none
  | some name => do
    let a ← get
    let number := a.position
    set { a with anchors := (name, number) :: a.anchors }
    pure (some number)

/-- Keeps a node that has an anchor. -/
def keep (number : Option Nat) (node : Node) : Assemble Node := do
  match number with
  | some n => modify fun a => { a with anchored := (n, node) :: a.anchored }
  | none => pure ()
  pure node

/-- An alias for the node that last got an anchor's name. -/
def aliasNode (t : Token) (name : Bytes) : Assemble Node := do
  let a ← get
  match a.anchors.lookup name with
  | some target => skip; pure (.alias (t.start.line + 1) a.position name target)
  | none => throw (.anywhere (.unknownAnchor name))

/-! ## §3 Assembling -/

/-- An empty scalar if an anchor or a tag announced a node; otherwise the node is missing. -/
def emptyOrFail (number : Option Nat) (line : Nat) (tag : Bytes) (start : Mark) (t : Token) :
    Assemble Node :=
  if number.isSome || !tag.isEmpty then keep number (scalar line tag [] true)
  else fail .noNode start t.start

/-- Tokens before which a value of a block mapping is missing. -/
def endsMappingPart : TokenKind → Bool
  | .key | .value | .blockEnd => true
  | _ => false

mutual

/-- Assembles a node.  Block collections may stand only in a block; a sequence that is the value of a
    mapping need not be indented. -/
def node : Nat → Bool → Bool → Assemble Node
  | 0, _, _ => pure default
  | fuel + 1, block, indentless => do
    let t ← peek
    match t.kind with
    | .alias name => aliasNode t name
    | _ =>
      let start := t.start
      let line := start.line + 1
      let p ← properties
      let tag ← fullTag start p.tag
      let t ← peek
      let number ← reserve p.anchor
      match t.kind with
      | .blockEntry =>
        if indentless then
          let items ← indentlessEntries fuel
          keep number (.sequence line (tagOr tag Tag.sequence) items)
        else emptyOrFail number line tag start t
      | .scalar text plain =>
        skip
        keep number (scalar line tag text plain)
      | .flowSequenceStart =>
        skip
        let items ← flowEntries fuel t.start true
        keep number (.sequence line (tagOr tag Tag.sequence) items)
      | .flowMappingStart =>
        skip
        let entries ← flowPairs fuel t.start true
        keep number (.mapping line (tagOr tag Tag.mapping) entries)
      | .blockSequenceStart =>
        if block then
          skip
          let items ← blockEntries fuel t.start
          keep number (.sequence line (tagOr tag Tag.sequence) items)
        else emptyOrFail number line tag start t
      | .blockMappingStart =>
        if block then
          skip
          let entries ← blockPairs fuel t.start
          keep number (.mapping line (tagOr tag Tag.mapping) entries)
        else emptyOrFail number line tag start t
      | _ => emptyOrFail number line tag start t

/-- Assembles the entries of a block sequence that begins at a place. -/
def blockEntries : Nat → Mark → Assemble (List Node)
  | 0, _ => pure []
  | fuel + 1, start => do
    let t ← peek
    match t.kind with
    | .blockEntry =>
      skip
      let u ← peek
      let item ← match u.kind with
        | .blockEntry | .blockEnd => pure (emptyScalar t.start)
        | _ => node fuel true false
      let items ← blockEntries fuel start
      pure (item :: items)
    | .blockEnd => skip; pure []
    | _ => fail .noEntryMark start t.start

/-- Assembles the entries of a sequence that stands at the column of the mapping around it. -/
def indentlessEntries : Nat → Assemble (List Node)
  | 0 => pure []
  | fuel + 1 => do
    let t ← peek
    match t.kind with
    | .blockEntry =>
      skip
      let u ← peek
      let item ← match u.kind with
        | .blockEntry | .key | .value | .blockEnd => pure (emptyScalar t.start)
        | _ => node fuel true false
      let items ← indentlessEntries fuel
      pure (item :: items)
    | _ => pure []

/-- Assembles the pairs of a block mapping that begins at a place. -/
def blockPairs : Nat → Mark → Assemble (List (Node × Node))
  | 0, _ => pure []
  | fuel + 1, start => do
    let t ← peek
    match t.kind with
    | .key =>
      skip
      let u ← peek
      let key ← if endsMappingPart u.kind then pure (emptyScalar t.start) else node fuel true true
      let value ← blockValue fuel
      let pairs ← blockPairs fuel start
      pure ((key, value) :: pairs)
    | .blockEnd => skip; pure []
    | _ => fail .noKey start t.start

/-- Assembles the value of a pair of a block mapping; it may be missing. -/
def blockValue : Nat → Assemble Node
  | 0 => pure default
  | fuel + 1 => do
    let t ← peek
    match t.kind with
    | .value =>
      skip
      let u ← peek
      if endsMappingPart u.kind then pure (emptyScalar t.start) else node fuel true true
    | _ => pure (emptyScalar t.start)

/-- Assembles the entries of a sequence in brackets that begins at a place. -/
def flowEntries : Nat → Mark → Bool → Assemble (List Node)
  | 0, _, _ => pure []
  | fuel + 1, start, first => do
    let t ← peek
    if t.kind == .flowSequenceEnd then skip; return []
    if !first then
      if t.kind != .flowEntry then fail .noSequenceDivider start t.start
      skip
    let t ← peek
    match t.kind with
    | .flowSequenceEnd => skip; pure []
    | .key =>
      skip
      let pair ← singlePair fuel
      let items ← flowEntries fuel start false
      pure (.mapping (t.start.line + 1) Tag.mapping [pair] :: items)
    | _ =>
      let item ← node fuel false false
      let items ← flowEntries fuel start false
      pure (item :: items)

/-- Assembles a pair that stands alone in a sequence in brackets. -/
def singlePair : Nat → Assemble (Node × Node)
  | 0 => pure (default, default)
  | fuel + 1 => do
    let t ← peek
    let key ← match t.kind with
      | .value | .flowEntry | .flowSequenceEnd => skip; pure (emptyScalar t.start)
      | _ => node fuel false false
    let t ← peek
    match t.kind with
    | .value =>
      skip
      let u ← peek
      match u.kind with
      | .flowEntry | .flowSequenceEnd => pure (key, emptyScalar u.start)
      | _ =>
        let value ← node fuel false false
        pure (key, value)
    | _ => pure (key, emptyScalar t.start)

/-- Assembles the pairs of a mapping in braces that begins at a place. -/
def flowPairs : Nat → Mark → Bool → Assemble (List (Node × Node))
  | 0, _, _ => pure []
  | fuel + 1, start, first => do
    let t ← peek
    if t.kind == .flowMappingEnd then skip; return []
    if !first then
      if t.kind != .flowEntry then fail .noMappingDivider start t.start
      skip
    let t ← peek
    match t.kind with
    | .flowMappingEnd => skip; pure []
    | .key =>
      skip
      let u ← peek
      let key ← match u.kind with
        | .value | .flowEntry | .flowMappingEnd => pure (emptyScalar u.start)
        | _ => node fuel false false
      let value ← flowValue fuel
      let pairs ← flowPairs fuel start false
      pure ((key, value) :: pairs)
    | _ =>
      let key ← node fuel false false
      let u ← peek
      let pairs ← flowPairs fuel start false
      pure ((key, emptyScalar u.start) :: pairs)

/-- Assembles the value of a pair of a mapping in braces; it may be missing. -/
def flowValue : Nat → Assemble Node
  | 0 => pure default
  | fuel + 1 => do
    let t ← peek
    match t.kind with
    | .value =>
      skip
      let u ← peek
      match u.kind with
      | .flowEntry | .flowMappingEnd => pure (emptyScalar u.start)
      | _ => node fuel false false
    | _ => pure (emptyScalar t.start)

end

/-! ## §4 Documents -/

/-- Reads the directives before a document. -/
def directives : Nat → Bool → List (Bytes × Bytes) → Assemble (List (Bytes × Bytes))
  | 0, _, handles => pure handles
  | fuel + 1, versioned, handles => do
    let t ← peek
    match t.kind with
    | .version major minor =>
      if versioned then fail .repeatedVersion noContext t.start
      if major != 1 || minor != 1 then fail .foreignVersion noContext t.start
      skip
      directives fuel true handles
    | .handle name expansion =>
      if (handles.lookup name).isSome then fail .repeatedHandle noContext t.start
      skip
      directives fuel versioned ((name, expansion) :: handles)
    | _ => pure handles

/-- The handles that need no directive. -/
def defaultHandles : List (Bytes × Bytes) :=
  [(bytes "!", bytes "!"), (bytes "!!", bytes "tag:yaml.org,2002:")]

/-- Assembles the first document; a file without one gives nothing. -/
def document : Assemble (Option Node) := do
  let fuel := 4 * (← get).tokens.all.size + 8
  let _ ← peek
  skip
  let t ← peek
  match t.kind with
  | .streamEnd => pure none
  | .version _ _ | .handle _ _ | .documentStart =>
    let handles ← directives fuel false []
    modify fun a => { a with handles := handles ++ defaultHandles }
    let t ← peek
    if t.kind != .documentStart then fail .noDocumentStart noContext t.start
    skip
    let t ← peek
    let root ← match t.kind with
      | .version _ _ | .handle _ _ | .documentStart | .documentEnd | .streamEnd =>
        pure (emptyScalar t.start)
      | _ => node fuel true false
    let _ ← peek
    pure (some root)
  | _ =>
    let root ← node fuel true false
    let _ ← peek
    pure (some root)

end Assemble

/-- The first document of a file, or nothing if there is none. -/
def document? (text : Bytes) : Except Fault (Option Document) := do
  let cs ← characters text
  let ts := tokens cs
  let (root, a) ← Assemble.document.run ⟨ts, 0, Assemble.defaultHandles, [], []⟩
  .ok (root.map fun node => ⟨node, a.anchored, ts.all.size⟩)

end Yaml

end DocPages
