import DocPages.Html.Document

/-!
# Building a Document

While a page is read, a stack holds the open elements, and a list the formatting elements such as
`b` or `a` that a later element takes up again when they were closed by force.  This module has the
operations on that state which the modes of reading share.

## Main definitions

- `Mode`, `Builder`
- `Builder.addElement`, `Builder.closeInScope`, `Builder.reconstruct`
- `Builder.closeFormatting`: closes a formatting element that may overlap others
-/

namespace DocPages

namespace Html

/-! ## §1 State -/

/-- Where in a page the reader is. -/
inductive Mode where
  | initial
  | beforeHtml
  | beforeHead
  | inHead
  | afterHead
  | inBody
  | text
  | inTable
  | inCaption
  | inColumnGroup
  | inTableBody
  | inRow
  | inCell
  | inSelect
  | inSelectInTable
  | inTemplate
  | afterBody
  | inFrameset
  | afterFrameset
  | afterAfterBody
  | afterAfterFrameset
  | ignoring
  deriving DecidableEq, Repr

/-- The state of reading a page. -/
structure Builder where
  document : Document
  /-- The open elements, innermost first. -/
  stack : List ElementId
  /-- The active formatting elements, latest first; none marks the border of a cell or the like. -/
  formatting : List (Option ElementId)
  head : Option ElementId
  form : Option ElementId
  /-- Whether a frameset may still take the place of the body. -/
  framesetAllowed : Bool
  /-- Whether the page lacks a current document type. -/
  quirks : Bool
  /-- Whether content that cannot stand in a table goes in front of it. -/
  fostering : Bool
  mode : Mode
  /-- The mode to return to after raw text. -/
  textReturn : Mode
  /-- The modes of the open templates, innermost first. -/
  templateModes : List Mode
  /-- The element whose raw text comes next. -/
  raw : Option Bytes
  /-- Whether too many elements were open at once. -/
  overflow : Bool

/-- The names in a text, divided by single blanks. -/
def names (s : String) : List Bytes := Bytes.splitOn (byte ' ') (bytes s)

/-- Whether a name is one of those in a text. -/
@[inline] def oneOf (s : String) (name : Bytes) : Bool := (names s).contains name

/-- The most elements that may be open at once. -/
def depthLimit : Nat := 512

namespace Builder

/-- The state before the first token. -/
def start : Builder where
  document := .empty
  stack := []
  formatting := []
  head := none
  form := none
  framesetAllowed := true
  quirks := false
  fostering := false
  mode := .initial
  textReturn := .initial
  templateModes := []
  raw := none
  overflow := false

/-- The innermost open element, or the document. -/
def top (b : Builder) : ElementId := b.stack.headD 0

/-- The element with a number. -/
def element (b : Builder) (id : ElementId) : Element := b.document.element id

/-- The name of an element. -/
def nameOf (b : Builder) (id : ElementId) : Bytes := (b.element id).name

/-- The name of the innermost open element. -/
def topName (b : Builder) : Bytes := b.nameOf b.top

/-- Whether a template is open. -/
def inTemplate (b : Builder) : Bool :=
  b.stack.any fun id => (b.element id).vocabulary = .html && b.nameOf id == bytes "template"

/-- Closes the innermost open element. -/
def pop (b : Builder) : Builder := { b with stack := b.stack.tail }

/-- Opens an element that stands in the document already. -/
def push (b : Builder) (id : ElementId) : Builder :=
  { b with stack := id :: b.stack, overflow := b.overflow || depthLimit ≤ b.stack.length }

/-- Changes the mode. -/
def setMode (b : Builder) (mode : Mode) : Builder := { b with mode }

/-- No frameset may take the place of the body any more. -/
def forbidFrameset (b : Builder) : Builder := { b with framesetAllowed := false }

/-! ## §2 Scopes -/

/-- How far a search through the open elements goes. -/
inductive Scope where
  | plain
  | listItem
  | button
  | table
  | select
  deriving DecidableEq, Repr

/-- Whether a search that has not found its element ends at this one. -/
def Scope.stopsAt (scope : Scope) (e : Element) : Bool :=
  let common := fun (_ : Unit) =>
    match e.vocabulary with
    | .html => oneOf "applet caption html table td th marquee object template" e.name
    | .math => oneOf "annotation-xml mi mn mo ms mtext" e.name
    | .svg => oneOf "desc foreignObject title" e.name
  let isHtml := e.vocabulary = .html
  match scope with
  | .plain => common ()
  | .listItem => (isHtml && oneOf "ol ul" e.name) || common ()
  | .button => (isHtml && e.name == bytes "button") || common ()
  | .table => isHtml && oneOf "html table template" e.name
  | .select => isHtml && !oneOf "optgroup option" e.name

/-- The open elements outside the innermost one in scope that satisfies `p`. -/
def outside? (b : Builder) (scope : Scope) (p : Bytes → Bool) : List ElementId → Option (List ElementId)
  | [] => none
  | id :: outer =>
    let e := b.element id
    if e.vocabulary = .html && p e.name then some outer
    else if scope.stopsAt e then none
    else b.outside? scope p outer

/-- Whether an element whose name satisfies `p` is in scope. -/
def hasInScope (b : Builder) (scope : Scope) (p : Bytes → Bool) : Bool :=
  (b.outside? scope p b.stack).isSome

/-- Closes the innermost element in scope whose name satisfies `p`, with all inside it; none if there
    is none. -/
def closeInScope? (b : Builder) (scope : Scope) (p : Bytes → Bool) : Option Builder :=
  (b.outside? scope p b.stack).map fun outer => { b with stack := outer }

/-- Closes the innermost element in scope whose name satisfies `p`, if there is one. -/
def closeInScope (b : Builder) (scope : Scope) (p : Bytes → Bool) : Builder :=
  (b.closeInScope? scope p).getD b

/-- Closes an open paragraph. -/
def closeParagraph (b : Builder) : Builder := b.closeInScope .button (· == bytes "p")

/-- Closes elements up to one with a name in `context`, which stays open. -/
def clearTo (b : Builder) (context : List Bytes) : Builder :=
  let kept := b.stack.dropWhile fun id => !context.contains (b.nameOf id)
  if kept.isEmpty then b else { b with stack := kept }

/-- Closes the innermost elements whose end tags may be left out, up to one named `except`. -/
def closeImplied (b : Builder) (except : Bytes) : Builder :=
  { b with stack := b.stack.dropWhile fun id =>
      let name := b.nameOf id
      oneOf "dd dt li optgroup option p rb rp rt rtc" name && name != except }

/-- Whether an element ends the search for the start of an overlapping one. -/
def isSpecial (e : Element) : Bool :=
  match e.vocabulary with
  | .html =>
    oneOf "address applet area article aside base basefont bgsound blockquote body br button" e.name ||
    oneOf "caption center col colgroup dd details dir div dl dt embed fieldset figcaption" e.name ||
    oneOf "figure footer form frame frameset h1 h2 h3 h4 h5 h6 head header hgroup hr html" e.name ||
    oneOf "iframe img input keygen li link listing main marquee menu meta nav noembed" e.name ||
    oneOf "noframes noscript object ol p param plaintext pre script section select source" e.name ||
    oneOf "style summary table tbody td template textarea tfoot th thead title tr track ul" e.name ||
    oneOf "wbr xmp" e.name
  | .math => oneOf "mi mo mn ms mtext annotation-xml" e.name
  | .svg => oneOf "foreignObject desc title" e.name

/-! ## §3 Adding elements -/

/-- Whether an element takes only rows, cells and the like. -/
def isTablePart (name : Bytes) : Bool := oneOf "table tbody tfoot thead tr" name

/-- Puts a detached element in front of the innermost open table, or into an open template inside
    that. -/
def foster (b : Builder) (id : ElementId) : Builder :=
  let kept := b.stack.dropWhile fun x =>
    b.nameOf x != bytes "table" && b.nameOf x != bytes "template"
  let document :=
    match kept with
    | [] => b.document.append (b.stack.getLastD 0) id
    | found :: outer =>
      if b.nameOf found == bytes "template" then b.document.append found id
      else
        match (b.element found).parent with
        | some parent => b.document.insertBefore parent found id
        | none => b.document.append (outer.headD 0) id
  { b with document }

/-- Puts a detached element where content belongs now, and opens it. -/
def place (b : Builder) (id : ElementId) : Builder :=
  let b :=
    if b.fostering && isTablePart b.topName then b.foster id
    else { b with document := b.document.append b.top id }
  b.push id

/-- Adds an element of some vocabulary and opens it. -/
def addForeign (b : Builder) (vocabulary : Vocabulary) (name : Bytes) (attributes : List Attribute) :
    Builder :=
  let (document, id) := b.document.create (.fresh name vocabulary attributes)
  { b with document }.place id

/-- Adds an element and opens it. -/
def addElement (b : Builder) (name : Bytes) (attributes : List Attribute) : Builder :=
  b.addForeign .html name attributes

/-- Adds an element that has no content. -/
def addVoid (b : Builder) (name : Bytes) (attributes : List Attribute) : Builder :=
  (b.addElement name attributes).pop

/-- Adds an element whose text is raw. -/
def addRaw (b : Builder) (name : Bytes) (attributes : List Attribute) : Builder :=
  { b.addElement name attributes with textReturn := b.mode, mode := .text }

/-! ## §4 Formatting elements -/

/-- Sets a border that formatting does not cross. -/
def mark (b : Builder) : Builder := { b with formatting := none :: b.formatting }

/-- Forgets the formatting elements up to the last border. -/
def unmark (b : Builder) : Builder :=
  { b with formatting := (b.formatting.dropWhile Option.isSome).tail }

/-- Copies an element, opens the copy and returns its number. -/
def addCopy (b : Builder) (id : ElementId) : Builder × ElementId :=
  let e := b.element id
  let b := b.addElement e.name e.attributes
  (b, b.top)

/-- Opens again the formatting elements that were closed by force. -/
def reconstruct (b : Builder) : Builder :=
  let closed := b.formatting.takeWhile fun entry =>
    match entry with
    | some id => !b.stack.contains id
    | none => false
  let kept := b.formatting.drop closed.length
  let (b, copies) := closed.reverse.foldl (fun (b, copies) entry =>
    match entry with
    | some id =>
      let (b, copy) := Builder.addCopy b id
      (b, some copy :: copies)
    | none => (b, copies)) (b, [])
  { b with formatting := copies ++ kept }

/-- Whether two lists of attributes say the same. -/
def sameAttributes (xs ys : List Attribute) : Bool :=
  xs.length == ys.length && xs.all ys.contains

/-- The formatting elements without the third and further copies of one, up to the last border. -/
def dropCopies (b : Builder) (name : Bytes) (attributes : List Attribute) :
    Nat → List (Option ElementId) → List (Option ElementId)
  | _, [] => []
  | _, none :: rest => none :: rest
  | seen, some id :: rest =>
    let e := b.element id
    if e.name == name && sameAttributes e.attributes attributes then
      if 2 ≤ seen then b.dropCopies name attributes (seen + 1) rest
      else some id :: b.dropCopies name attributes (seen + 1) rest
    else some id :: b.dropCopies name attributes seen rest

/-- Adds a formatting element. -/
def addFormatting (b : Builder) (name : Bytes) (attributes : List Attribute) : Builder :=
  let b := b.addElement name attributes
  { b with formatting := some b.top :: b.dropCopies name attributes 0 b.formatting }

/-- Forgets one formatting element. -/
def forget (b : Builder) (id : ElementId) : Builder :=
  { b with formatting := b.formatting.filter (· != some id) }

/-- Closes the innermost open element with a name, unless a special element stands inside it. -/
def closeAny (b : Builder) (name : Bytes) : List ElementId → Builder
  | [] => b
  | id :: outer =>
    let e := b.element id
    if e.name == name then { b with stack := outer }
    else if isSpecial e then b
    else b.closeAny name outer

/-- What is carried along while the elements between a formatting element and the block inside it are
    copied. -/
structure Adoption where
  builder : Builder
  /-- The formatting elements, earliest first. -/
  entries : List (Option ElementId)
  /-- The open elements. -/
  stack : List ElementId
  last : ElementId
  bookmark : Nat
  count : Nat

/-- Copies one element between a formatting element and the block inside it, and puts what was moved
    last into the copy. -/
def adoptNode (block : ElementId) (a : Adoption) (node : ElementId) : Adoption :=
  let a := { a with count := a.count + 1 }
  match a.entries.idxOf? (some node) with
  | none => { a with stack := a.stack.filter (· != node) }
  | some i =>
    if 3 < a.count then
      { a with
        entries := a.entries.eraseIdx i
        bookmark := if i ≤ a.bookmark then a.bookmark - 1 else a.bookmark }
    else
      let e := a.builder.element node
      let (document, copy) := a.builder.document.create (.fresh e.name .html e.attributes)
      let document := (document.detach a.last).append copy a.last
      { builder := { a.builder with document }
        entries := a.entries.set i (some copy)
        stack := a.stack.map fun id => if id = node then copy else id
        last := copy
        bookmark := if a.last = block then i + 1 else a.bookmark
        count := a.count }

/-- Closes a formatting element inside which a block is open: the block moves out, and its content
    into a copy of the formatting element. -/
def adopt (b : Builder) (target block : ElementId) (inner outer : List ElementId) : Builder :=
  let between := (inner.dropWhile (· != block)).drop 1
  let entries := b.formatting.reverse
  let a := between.foldl (adoptNode block)
    ⟨b, entries, b.stack, block, entries.idxOf (some target), 0⟩
  let b := { a.builder with stack := a.stack, document := a.builder.document.detach a.last }
  let ancestor := outer.headD 0
  let b :=
    if isTablePart (b.nameOf ancestor) then b.foster a.last
    else { b with document := b.document.append ancestor a.last }
  let e := b.element target
  let (document, copy) := b.document.create (.fresh e.name .html e.attributes)
  let document := (document.moveChildren block copy).append block copy
  let bookmark := if a.entries.idxOf (some target) < a.bookmark then a.bookmark - 1 else a.bookmark
  { b with
    document
    formatting := ((a.entries.filter (· != some target)).insertIdx bookmark (some copy)).reverse
    stack := (a.stack.filter (· != target)).flatMap fun id => if id = block then [copy, id] else [id] }

/-- Closes a formatting element by name, as often as blocks stand inside it, `fuel` times at most. -/
def closeOverlapping (name : Bytes) : Nat → Builder → Builder
  | 0, b => b
  | fuel + 1, b =>
    match (b.formatting.takeWhile Option.isSome).find? fun entry =>
        (entry.map fun id => b.nameOf id == name).getD false with
    | some (some target) =>
      if !b.stack.contains target then b.forget target
      else if !b.hasInScope .plain (· == name) then b
      else
        let inner := b.stack.takeWhile (· != target)
        let outer := (b.stack.dropWhile (· != target)).drop 1
        match inner.reverse.find? fun id => isSpecial (b.element id) with
        | none => { b with stack := outer }.forget target
        | some block => closeOverlapping name fuel (b.adopt target block inner outer)
    | _ => b.closeAny name b.stack

/-- Closes a formatting element by name. -/
def closeFormatting (b : Builder) (name : Bytes) : Builder :=
  if b.topName == name && !b.formatting.contains (some b.top) then b.pop
  else closeOverlapping name 8 b

/-! ## §5 Modes -/

/-- The mode that the open elements, innermost first, ask for. -/
def modeFor (b : Builder) : List ElementId → Mode
  | [] => .inBody
  | id :: outer =>
    let name := b.nameOf id
    if name == bytes "select" then
      match outer.find? fun x => oneOf "template table" (b.nameOf x) with
      | some x => if b.nameOf x == bytes "table" then .inSelectInTable else .inSelect
      | none => .inSelect
    else if oneOf "td th" name then .inCell
    else if name == bytes "tr" then .inRow
    else if oneOf "tbody thead tfoot" name then .inTableBody
    else if name == bytes "caption" then .inCaption
    else if name == bytes "colgroup" then .inColumnGroup
    else if name == bytes "table" then .inTable
    else if name == bytes "template" && (b.element id).vocabulary = .html then
      b.templateModes.headD .inBody
    else if name == bytes "head" then .inHead
    else if name == bytes "body" then .inBody
    else if name == bytes "frameset" then .inFrameset
    else if name == bytes "html" then (if b.head.isNone then .beforeHead else .afterHead)
    else b.modeFor outer

/-- Changes to the mode that the open elements ask for. -/
def resetMode (b : Builder) : Builder := b.setMode (b.modeFor b.stack)

/-- Closes the innermost open template. -/
def closeTemplate (b : Builder) : Builder :=
  let b := b.closeImplied []
  let inside := b.stack.takeWhile fun id =>
    !((b.element id).vocabulary = .html && b.nameOf id == bytes "template")
  let b := if inside.length < b.stack.length then { b with stack := b.stack.drop (inside.length + 1) } else b
  { b.unmark with templateModes := b.templateModes.tail }.resetMode

end Builder

end Html

end DocPages
