import DocPages.Html.Builder

/-!
# Reading a Page

Every token is read in the current mode, which may open and close elements, change the mode, and
hand the token on to be read again.  A page that has more elements open at once than the limit is not
read at all.

## Main definitions

- `Builder.step`: reads a token in the current mode
- `Builder.process`: reads a token until it is used up
- `parsePage?`: the document of a page
-/

namespace DocPages

namespace Html

namespace Builder

/-- What reading a token gives: the new state, and the token that is still to be read. -/
abbrev Outcome := Builder × Option Token

/-- How a token that the page leaves out is read. -/
abbrev Implied := Builder → Token → Builder

/-- A start tag without attributes. -/
def bareTag (name : String) : Token := .startTag (bytes name) [] false

/-- Adds attributes that an element lacks. -/
def addAttributes (b : Builder) (id : ElementId) (attributes : List Attribute) : Builder :=
  { b with document := b.document.modify id fun e =>
      { e with attributes := e.attributes ++
          attributes.filter fun a => !(e.attributes.any fun x => x.name == a.name) } }

/-- Whether the attributes make an input invisible. -/
def isHiddenInput (attributes : List Attribute) : Bool :=
  attributes.any fun a => a.name == bytes "type" && a.value.map Bytes.lower == bytes "hidden"

/-! ## §1 Before the body -/

/-- Whether a document type asks for the rules of old pages. -/
def asksForQuirks (content : Bytes) : Bool :=
  let name := content.takeWhile fun b => !isSpace b
  let rest := (content.drop name.length).dropWhile isSpace
  name != bytes "html" || (!rest.isEmpty && rest != bytes "SYSTEM \"about:legacy-compat\"")

/-- Before the document type. -/
def initialMode (b : Builder) (t : Token) : Outcome :=
  let next := { b with quirks := true, mode := .beforeHtml }
  match t with
  | .text s =>
    let s := s.dropWhile isSpace
    if s.isEmpty then (b, none) else (next, some (.text s))
  | .comment => (b, none)
  | .doctype content => ({ b with quirks := asksForQuirks content, mode := .beforeHtml }, none)
  | t => (next, some t)

/-- Before the outermost element. -/
def beforeHtmlMode (b : Builder) (t : Token) : Outcome :=
  let next := (b.addElement (bytes "html") []).setMode .beforeHead
  match t with
  | .doctype _ => (b, none)
  | .comment => (b, none)
  | .text s =>
    let s := s.dropWhile isSpace
    if s.isEmpty then (b, none) else (next, some (.text s))
  | .startTag name attributes _ =>
    if name == bytes "html" then ((b.addElement name attributes).setMode .beforeHead, none)
    else (next, some t)
  | .endTag name => if oneOf "head body html br" name then (next, some t) else (b, none)
  | .done => (next, some t)

/-- Opens the head. -/
def openHead (b : Builder) (attributes : List Attribute) : Builder :=
  let b := b.addElement (bytes "head") attributes
  { b with head := some b.top, mode := .inHead }

/-- In the head, and for the elements that belong there. -/
def headMode (b : Builder) (t : Token) : Outcome :=
  let next := b.pop.setMode .afterHead
  match t with
  | .text s =>
    let s := s.dropWhile isSpace
    if s.isEmpty then (b, none) else (next, some (.text s))
  | .startTag name attributes _ =>
    if oneOf "base basefont bgsound link meta" name then (b.addVoid name attributes, none)
    else if oneOf "noscript script title noframes style" name then (b.addRaw name attributes, none)
    else if name == bytes "head" then (b, none)
    else if name == bytes "template" then
      if b.stack.any fun id => (b.element id).vocabulary ≠ .html then (b.setMode .ignoring, none)
      else
        let b := (b.addElement name attributes).mark.forbidFrameset
        ({ b with mode := .inTemplate, templateModes := .inTemplate :: b.templateModes }, none)
    else (next, some t)
  | .endTag name =>
    if name == bytes "head" then (next, none)
    else if oneOf "body html br" name then (next, some t)
    else if name == bytes "template" then ((if b.inTemplate then b.closeTemplate else b), none)
    else (b, none)
  | .comment => (b, none)
  | .doctype _ => (b, none)
  | .done => (next, some t)

/-! ## §2 The body -/

/-- Closes the item, term or definition that a new one follows. -/
def closeItem (b : Builder) (items : List Bytes) : List ElementId → Builder
  | [] => b
  | id :: outer =>
    let e := b.element id
    if items.contains e.name then { b with stack := outer }
    else if isSpecial e && !oneOf "address div p" e.name then b
    else b.closeItem items outer

/-- A heading of some level. -/
def isHeading (name : Bytes) : Bool := oneOf "h1 h2 h3 h4 h5 h6" name

/-- A start tag in the body. -/
def openInBody (b : Builder) (name : Bytes) (attributes : List Attribute) (selfClosing : Bool) :
    Outcome :=
  let t := Token.startTag name attributes selfClosing
  if name == bytes "html" then
    ((if b.inTemplate then b else b.addAttributes (b.stack.getLastD 0) attributes), none)
  else if oneOf "base basefont bgsound link meta noframes script style template title" name then
    b.headMode t
  else if name == bytes "body" then
    match b.stack.reverse with
    | _ :: body :: _ =>
      if !b.inTemplate && b.nameOf body == name then
        ((b.addAttributes body attributes).forbidFrameset, none)
      else (b, none)
    | _ => (b, none)
  else if name == bytes "frameset" then
    match b.stack.reverse with
    | html :: body :: _ =>
      if b.framesetAllowed && b.nameOf body == bytes "body" then
        let b := { b with document := b.document.detach body, stack := [html] }
        ((b.addElement name attributes).setMode .inFrameset, none)
      else (b, none)
    | _ => (b, none)
  else if oneOf "address article aside blockquote center details dialog dir div dl fieldset" name ||
      oneOf "figcaption figure footer header hgroup main menu nav ol p section summary ul" name then
    (b.closeParagraph.addElement name attributes, none)
  else if isHeading name then
    let b := b.closeParagraph
    let b := if isHeading b.topName then b.pop else b
    (b.addElement name attributes, none)
  else if oneOf "pre listing" name then
    ((b.closeParagraph.addElement name attributes).forbidFrameset, none)
  else if name == bytes "form" then
    if b.form.isSome && !b.inTemplate then (b, none)
    else
      let b := b.closeParagraph.addElement name attributes
      ((if b.inTemplate then b else { b with form := some b.top }), none)
  else if name == bytes "li" then
    (((b.closeItem [name] b.stack).closeParagraph.addElement name attributes).forbidFrameset, none)
  else if oneOf "dd dt" name then
    let b := b.closeItem [bytes "dd", bytes "dt"] b.stack
    ((b.closeParagraph.addElement name attributes).forbidFrameset, none)
  else if name == bytes "plaintext" then (b.closeParagraph.addElement name attributes, none)
  else if name == bytes "button" then
    let b := (b.closeInScope .plain (· == name)).reconstruct
    ((b.addElement name attributes).forbidFrameset, none)
  else if name == bytes "a" then
    let b :=
      match (b.formatting.takeWhile Option.isSome).find? fun entry =>
          (entry.map fun id => b.nameOf id == name).getD false with
      | some (some id) =>
        let b := (b.closeFormatting name).forget id
        { b with stack := b.stack.filter (· != id) }
      | _ => b
    (b.reconstruct.addFormatting name attributes, none)
  else if oneOf "b big code em font i s small strike strong tt u" name then
    (b.reconstruct.addFormatting name attributes, none)
  else if name == bytes "nobr" then
    let b := b.reconstruct
    let b :=
      if b.hasInScope .plain (· == name) then (b.closeFormatting name).reconstruct else b
    (b.addFormatting name attributes, none)
  else if oneOf "applet marquee object" name then
    ((b.reconstruct.addElement name attributes).mark.forbidFrameset, none)
  else if name == bytes "table" then
    let b := if b.quirks then b else b.closeParagraph
    ((b.addElement name attributes).forbidFrameset.setMode .inTable, none)
  else if oneOf "area br embed img input keygen wbr" name then
    let b := b.reconstruct.addVoid name attributes
    ((if name == bytes "input" && isHiddenInput attributes then b else b.forbidFrameset), none)
  else if oneOf "param source track" name then (b.addVoid name attributes, none)
  else if name == bytes "hr" then
    ((b.closeParagraph.addVoid name attributes).forbidFrameset, none)
  else if name == bytes "image" then (b, some (.startTag (bytes "img") attributes selfClosing))
  else if oneOf "textarea iframe" name then ((b.addRaw name attributes).forbidFrameset, none)
  else if name == bytes "xmp" then
    ((b.closeParagraph.reconstruct.addRaw name attributes).forbidFrameset, none)
  else if oneOf "noembed noscript" name then (b.addRaw name attributes, none)
  else if name == bytes "select" then
    ((b.reconstruct.addElement name attributes).forbidFrameset.setMode .inSelect, none)
  else if oneOf "optgroup option" name then
    let b := if b.topName == bytes "option" then b.pop else b
    (b.reconstruct.addElement name attributes, none)
  else if oneOf "rb rtc rp rt" name then
    let except := if oneOf "rp rt" name then bytes "rtc" else []
    let b := if b.hasInScope .plain (· == bytes "ruby") then b.closeImplied except else b
    (b.addElement name attributes, none)
  else if oneOf "math svg" name then
    let vocabulary := if name == bytes "svg" then Vocabulary.svg else .math
    let b := b.reconstruct.addForeign vocabulary name attributes
    ((if selfClosing then b.pop else b), none)
  else if oneOf "caption col colgroup frame head tbody td tfoot th thead tr" name then (b, none)
  else (b.reconstruct.addElement name attributes, none)

/-- An end tag in the body. -/
def closeInBody (implied : Implied) (b : Builder) (name : Bytes) : Outcome :=
  if name == bytes "body" then
    ((if b.hasInScope .plain (· == name) then b.setMode .afterBody else b), none)
  else if name == bytes "html" then
    if b.hasInScope .plain (· == bytes "body") then (b.setMode .afterBody, some (.endTag name))
    else (b, none)
  else if oneOf "address article aside blockquote button center details dialog dir div dl" name ||
      oneOf "fieldset figcaption figure footer header hgroup listing main menu nav ol pre" name ||
      oneOf "section summary ul dd dt" name then
    (b.closeInScope .plain (· == name), none)
  else if name == bytes "form" then
    match b.outside? .plain (· == name) b.stack with
    | none => ((if b.inTemplate then b else { b with form := none }), none)
    | some outer =>
      let found := b.stack.getD (b.stack.length - outer.length - 1) 0
      if b.inTemplate then (b.closeImplied [] |>.closeInScope .plain (· == name), none)
      else if b.form = some found then
        let b := { b with form := none }.closeImplied []
        ({ b with stack := b.stack.filter (· != found) }, none)
      else ({ b with form := none }, none)
  else if name == bytes "p" then
    let b := if b.hasInScope .button (· == name) then b else implied b (bareTag "p")
    (b.closeParagraph, none)
  else if name == bytes "li" then (b.closeInScope .listItem (· == name), none)
  else if isHeading name then (b.closeInScope .plain isHeading, none)
  else if oneOf "a b big code em font i nobr s small strike strong tt u" name then
    (b.closeFormatting name, none)
  else if oneOf "applet marquee object" name then
    (((b.closeInScope? .plain (· == name)).map Builder.unmark).getD b, none)
  else if name == bytes "br" then (b, some (.startTag name [] false))
  else if name == bytes "template" then b.headMode (.endTag name)
  else (b.closeAny name b.stack, none)

/-- In the body. -/
def bodyMode (implied : Implied) (b : Builder) (t : Token) : Outcome :=
  match t with
  | .text s =>
    let s := s.filter (· != 0)
    if s.isEmpty then (b, none)
    else
      let b := b.reconstruct
      ((if s.all isSpace then b else b.forbidFrameset), none)
  | .startTag name attributes selfClosing => b.openInBody name attributes selfClosing
  | .endTag name => closeInBody implied b name
  | .comment => (b, none)
  | .doctype _ => (b, none)
  | .done => if b.templateModes.isEmpty then (b, none) else (b.setMode .inTemplate, some t)

/-- Before the head. -/
def beforeHeadMode (implied : Implied) (b : Builder) (t : Token) : Outcome :=
  let next := b.openHead []
  match t with
  | .text s =>
    let s := s.dropWhile isSpace
    if s.isEmpty then (b, none) else (next, some (.text s))
  | .startTag name attributes _ =>
    if name == bytes "head" then (b.openHead attributes, none)
    else if name == bytes "html" then bodyMode implied b t
    else (next, some t)
  | .endTag name => if oneOf "head body html br" name then (next, some t) else (b, none)
  | .comment => (b, none)
  | .doctype _ => (b, none)
  | .done => (next, some t)

/-- In the head. -/
def inHeadMode (implied : Implied) (b : Builder) (t : Token) : Outcome :=
  match t with
  | .startTag name _ _ => if name == bytes "html" then bodyMode implied b t else b.headMode t
  | _ => b.headMode t

/-- After the head. -/
def afterHeadMode (implied : Implied) (b : Builder) (t : Token) : Outcome :=
  let body := fun (attributes : List Attribute) => (b.addElement (bytes "body") attributes).setMode .inBody
  let next := { body [] with framesetAllowed := true }
  match t with
  | .text s =>
    let s := s.dropWhile isSpace
    if s.isEmpty then (b, none) else (next, some (.text s))
  | .startTag name attributes _ =>
    if name == bytes "html" then bodyMode implied b t
    else if name == bytes "body" then ((body attributes).forbidFrameset, none)
    else if name == bytes "frameset" then ((b.addElement name attributes).setMode .inFrameset, none)
    else if oneOf "base basefont bgsound link meta noframes script style template title" name then
      let head := b.head.getD 0
      let (b, again) := (b.push head).headMode t
      ({ b with stack := b.stack.filter (· != head) }, again)
    else if name == bytes "head" then (b, none)
    else (next, some t)
  | .endTag name =>
    if oneOf "body html br" name then (next, some t)
    else if name == bytes "template" then b.headMode t
    else (b, none)
  | .comment => (b, none)
  | .doctype _ => (b, none)
  | .done => (next, some t)

/-- In raw text. -/
def textMode (b : Builder) (t : Token) : Outcome :=
  match t with
  | .text _ => (b, none)
  | .endTag _ => (b.pop.setMode b.textReturn, none)
  | .done => (b.pop.setMode b.textReturn, some t)
  | t => (b.setMode b.textReturn, some t)

/-! ## §3 Tables -/

/-- The elements that end a search in a table. -/
def tableContext : List Bytes := names "html table template"

/-- The elements that end a search in a row. -/
def rowContext : List Bytes := names "html tr template"

/-- The elements that end a search in a group of rows. -/
def bodyContext : List Bytes := names "html tbody tfoot thead template"

/-- A group of rows. -/
def isRowGroup (name : Bytes) : Bool := oneOf "tbody thead tfoot" name

/-- What cannot stand in a table goes in front of it. -/
def fosterMode (implied : Implied) (b : Builder) (t : Token) : Outcome :=
  let (b, again) := bodyMode implied { b with fostering := true } t
  ({ b with fostering := false }, again)

/-- In a table. -/
def tableMode (implied : Implied) (b : Builder) (t : Token) : Outcome :=
  match t with
  | .text s =>
    let s := s.filter (· != 0)
    if isTablePart b.topName && s.all isSpace then (b, none) else fosterMode implied b (.text s)
  | .startTag name attributes _ =>
    if name == bytes "caption" then
      (((b.clearTo tableContext).mark.addElement name attributes).setMode .inCaption, none)
    else if name == bytes "colgroup" then
      (((b.clearTo tableContext).addElement name attributes).setMode .inColumnGroup, none)
    else if name == bytes "col" then (implied b (bareTag "colgroup"), some t)
    else if isRowGroup name then
      (((b.clearTo tableContext).addElement name attributes).setMode .inTableBody, none)
    else if oneOf "td th tr" name then (implied b (bareTag "tbody"), some t)
    else if name == bytes "table" then
      match b.closeInScope? .table (· == name) with
      | some b => (b.resetMode, some t)
      | none => (b, none)
    else if oneOf "style script template" name then b.headMode t
    else if name == bytes "input" && isHiddenInput attributes then (b.addVoid name attributes, none)
    else if name == bytes "form" then
      if b.inTemplate || b.form.isSome then (b, none)
      else
        let b := b.addElement name attributes
        ({ b with form := some b.top }.pop, none)
    else if name == bytes "select" then
      let b := b.reconstruct
      let b := { b with fostering := isTablePart b.topName }.addElement name attributes
      ({ b with fostering := false }.forbidFrameset.setMode .inSelectInTable, none)
    else fosterMode implied b t
  | .endTag name =>
    if name == bytes "table" then
      (((b.closeInScope? .table (· == name)).map Builder.resetMode).getD b, none)
    else if oneOf "body caption col colgroup html tbody td tfoot th thead tr" name then (b, none)
    else if name == bytes "template" then b.headMode t
    else fosterMode implied b t
  | .comment => (b, none)
  | .doctype _ => (b, none)
  | .done => bodyMode implied b t

/-- Closes a caption. -/
def closeCaption? (b : Builder) : Option Builder :=
  (b.closeInScope? .table (· == bytes "caption")).map fun b => b.unmark.setMode .inTable

/-- In a caption. -/
def captionMode (implied : Implied) (b : Builder) (t : Token) : Outcome :=
  let close := match b.closeCaption? with
    | some b => (b, some t)
    | none => (b, none)
  match t with
  | .startTag name attributes _ =>
    if oneOf "caption col colgroup tbody td tfoot thead tr" name then close
    else if name == bytes "select" then
      ((b.reconstruct.addElement name attributes).forbidFrameset.setMode .inSelectInTable, none)
    else bodyMode implied b t
  | .endTag name =>
    if name == bytes "caption" then (b.closeCaption?.getD b, none)
    else if name == bytes "table" then close
    else if oneOf "body col colgroup html tbody td tfoot th thead tr" name then (b, none)
    else bodyMode implied b t
  | _ => bodyMode implied b t

/-- In a group of columns. -/
def columnGroupMode (implied : Implied) (b : Builder) (t : Token) : Outcome :=
  let leave := fun (t : Token) =>
    if b.topName == bytes "colgroup" then (b.pop.setMode .inTable, some t) else (b, none)
  match t with
  | .text s =>
    let s := s.dropWhile isSpace
    if s.isEmpty then (b, none) else leave (.text s)
  | .comment => (b, none)
  | .doctype _ => (b, none)
  | .startTag name attributes _ =>
    if name == bytes "html" then bodyMode implied b t
    else if name == bytes "col" then (b.addVoid name attributes, none)
    else if name == bytes "template" then b.headMode t
    else leave t
  | .endTag name =>
    if name == bytes "colgroup" then
      ((if b.topName == name then b.pop.setMode .inTable else b), none)
    else if name == bytes "col" then (b, none)
    else if name == bytes "template" then b.headMode t
    else leave t
  | .done => bodyMode implied b t

/-- In a group of rows. -/
def tableBodyMode (implied : Implied) (b : Builder) (t : Token) : Outcome :=
  let leave := match b.closeInScope? .table isRowGroup with
    | some b => (b.setMode .inTable, some t)
    | none => (b, none)
  match t with
  | .startTag name attributes _ =>
    if name == bytes "tr" then
      (((b.clearTo bodyContext).addElement name attributes).setMode .inRow, none)
    else if oneOf "td th" name then (implied b (bareTag "tr"), some t)
    else if oneOf "caption col colgroup tbody tfoot thead" name then leave
    else tableMode implied b t
  | .endTag name =>
    if isRowGroup name then
      if b.hasInScope .table (· == name) then ((b.clearTo bodyContext).pop.setMode .inTable, none)
      else (b, none)
    else if name == bytes "table" then leave
    else if oneOf "body caption col colgroup html td th tr" name then (b, none)
    else tableMode implied b t
  | .comment => (b, none)
  | _ => tableMode implied b t

/-- In a row. -/
def rowMode (implied : Implied) (b : Builder) (t : Token) : Outcome :=
  let inRow := b.hasInScope .table (· == bytes "tr")
  let closed := (b.clearTo rowContext).pop.setMode .inTableBody
  match t with
  | .startTag name attributes _ =>
    if oneOf "td th" name then
      (((b.clearTo rowContext).addElement name attributes).mark.setMode .inCell, none)
    else if oneOf "caption col colgroup tbody tfoot thead tr" name then
      if inRow then (closed, some t) else (b, none)
    else tableMode implied b t
  | .endTag name =>
    if name == bytes "tr" then ((if inRow then closed else b), none)
    else if name == bytes "table" then if inRow then (closed, some t) else (b, none)
    else if isRowGroup name then
      if b.hasInScope .table (· == name) && inRow then (closed, some t) else (b, none)
    else if oneOf "body caption col colgroup html td th" name then (b, none)
    else tableMode implied b t
  | _ => tableMode implied b t

/-- In a cell. -/
def cellMode (implied : Implied) (b : Builder) (t : Token) : Outcome :=
  let closed := b.closeInScope? .table (oneOf "td th")
  match t with
  | .startTag name attributes _ =>
    if oneOf "caption col colgroup tbody td tfoot th thead tr" name then
      match closed with
      | some b => (b.unmark.setMode .inRow, some t)
      | none => (b, none)
    else if name == bytes "select" then
      ((b.reconstruct.addElement name attributes).forbidFrameset.setMode .inSelectInTable, none)
    else bodyMode implied b t
  | .endTag name =>
    if oneOf "td th" name then
      match b.closeInScope? .table (· == name) with
      | some b => (b.unmark.setMode .inRow, none)
      | none => (b, none)
    else if oneOf "body caption col colgroup html" name then (b, none)
    else if isTablePart name then
      if b.hasInScope .table (· == name) then
        (((closed.map Builder.unmark).getD b).setMode .inRow, some t)
      else (b, none)
    else bodyMode implied b t
  | _ => bodyMode implied b t

/-! ## §4 Other places -/

/-- In a list of options. -/
def selectMode (implied : Implied) (b : Builder) (t : Token) : Outcome :=
  let popIf := fun (b : Builder) (name : Bytes) => if b.topName == name then b.pop else b
  let close := ((b.closeInScope? .select (· == bytes "select")).map Builder.resetMode).getD b
  match t with
  | .text _ => (b, none)
  | .startTag name attributes _ =>
    if name == bytes "html" then bodyMode implied b t
    else if name == bytes "option" then ((popIf b name).addElement name attributes, none)
    else if name == bytes "optgroup" then
      ((popIf (popIf b (bytes "option")) name).addElement name attributes, none)
    else if name == bytes "select" then (close, none)
    else if oneOf "input keygen textarea" name then
      if b.hasInScope .select (· == bytes "select") then (close, some t)
      else ({ b with raw := none }, none)
    else if oneOf "script template" name then b.headMode t
    else if oneOf "iframe noembed noframes noscript style title" name then
      ({ b with raw := none }, none)
    else (b, none)
  | .endTag name =>
    if name == bytes "option" then (popIf b name, none)
    else if name == bytes "optgroup" then
      let c := popIf b (bytes "option")
      ((if c.topName == name then c.pop else b), none)
    else if name == bytes "select" then (close, none)
    else if name == bytes "template" then b.headMode t
    else (b, none)
  | .comment => (b, none)
  | .doctype _ => (b, none)
  | .done => bodyMode implied b t

/-- In a list of options inside a table. -/
def selectInTableMode (implied : Implied) (b : Builder) (t : Token) : Outcome :=
  let part := fun (name : Bytes) => oneOf "caption table tbody tfoot thead tr td th" name
  let leave := fun (_ : Unit) =>
    let inside := b.stack.takeWhile fun id => b.nameOf id != bytes "select"
    let b := if inside.length < b.stack.length then { b with stack := b.stack.drop (inside.length + 1) } else b
    (b.resetMode, some t)
  match t with
  | .startTag name _ _ => if part name then leave () else selectMode implied b t
  | .endTag name =>
    if part name then if b.hasInScope .table (· == name) then leave () else (b, none)
    else selectMode implied b t
  | _ => selectMode implied b t

/-- In a template. -/
def templateMode (implied : Implied) (b : Builder) (t : Token) : Outcome :=
  let become := fun (mode : Mode) =>
    ({ b with mode, templateModes := mode :: b.templateModes.tail }, some t)
  match t with
  | .text _ => bodyMode implied b t
  | .comment => bodyMode implied b t
  | .doctype _ => bodyMode implied b t
  | .startTag name _ _ =>
    if oneOf "base basefont bgsound link meta noframes script style template title" name then
      b.headMode t
    else if oneOf "caption colgroup tbody tfoot thead" name then become .inTable
    else if name == bytes "col" then become .inColumnGroup
    else if name == bytes "tr" then become .inTableBody
    else if oneOf "td th" name then become .inRow
    else become .inBody
  | .endTag name => if name == bytes "template" then b.headMode t else (b, none)
  | .done => if b.inTemplate then (b.closeTemplate, some t) else (b, none)

/-- After the body, and after the outermost element. -/
def afterBodyMode (implied : Implied) (b : Builder) (t : Token) (closed : Mode) : Outcome :=
  let back := (b.setMode .inBody, some t)
  match t with
  | .done => (b, none)
  | .text s => if s.all isSpace then bodyMode implied b t else back
  | .startTag name _ _ => if name == bytes "html" then bodyMode implied b t else back
  | .endTag name =>
    if name == bytes "html" && b.mode = .afterBody then (b.setMode closed, none) else back
  | .comment => (b, none)
  | .doctype _ => if b.mode = .afterBody then back else bodyMode implied b t

/-- In a frameset. -/
def framesetMode (implied : Implied) (b : Builder) (t : Token) : Outcome :=
  match t with
  | .startTag name attributes _ =>
    if name == bytes "html" then bodyMode implied b t
    else if name == bytes "frameset" then (b.addElement name attributes, none)
    else if name == bytes "frame" then (b.addVoid name attributes, none)
    else if name == bytes "noframes" then b.headMode t
    else (b, none)
  | .endTag name =>
    if name == bytes "frameset" && b.topName != bytes "html" then
      let b := b.pop
      ((if b.topName == name then b else b.setMode .afterFrameset), none)
    else (b, none)
  | _ => (b, none)

/-- After a frameset. -/
def afterFramesetMode (implied : Implied) (b : Builder) (t : Token) : Outcome :=
  match t with
  | .startTag name _ _ =>
    if name == bytes "html" then bodyMode implied b t
    else if name == bytes "noframes" then b.headMode t
    else (b, none)
  | .endTag name =>
    ((if name == bytes "html" && b.mode = .afterFrameset then b.setMode .afterAfterFrameset else b), none)
  | _ => (b, none)

/-! ## §5 Foreign content -/

/-- Whether HTML may stand inside a foreign element. -/
def takesHtml (e : Element) : Bool :=
  match e.vocabulary with
  | .html => false
  | .svg => oneOf "desc foreignObject title" e.name
  | .math =>
    e.name == bytes "annotation-xml" && e.attributes.any fun a =>
      a.name == bytes "encoding" &&
        oneOf "text/html application/xhtml+xml" (a.value.map Bytes.lower)

/-- Whether a foreign element takes text. -/
def takesText (e : Element) : Bool := e.vocabulary = .math && oneOf "mi mo mn ms mtext" e.name

/-- Whether a token belongs to foreign content. -/
def isForeign (b : Builder) (t : Token) : Bool :=
  let e := b.element b.top
  if b.stack.isEmpty || e.vocabulary = .html then false
  else
    match t with
    | .done => false
    | .text _ => !takesText e && !takesHtml e
    | .startTag name _ _ =>
      !(takesText e && !oneOf "mglyph malignmark" name) &&
        !(e.vocabulary = .math && e.name == bytes "annotation-xml" && name == bytes "svg") &&
        !takesHtml e
    | _ => true

/-- Whether a start tag ends foreign content. -/
def breaksOut (name : Bytes) (attributes : List Attribute) : Bool :=
  oneOf "b big blockquote body br center code dd div dl dt em embed h1 h2 h3 h4 h5 h6 head hr" name ||
  oneOf "i img li listing menu meta nobr ol p pre ruby s small span strong strike sub sup" name ||
  oneOf "table tt u ul var" name ||
  (name == bytes "font" && attributes.any fun a => oneOf "color face size" a.name)

/-- The attributes of a foreign element: those of linked vocabularies lose the name of it. -/
def foreignAttributes (attributes : List Attribute) : List Attribute :=
  attributes.map fun a =>
    if oneOf "xlink:actuate xlink:arcrole xlink:href xlink:role xlink:show xlink:title" a.name ||
        oneOf "xlink:type xml:base xml:lang xml:space xmlns:xlink" a.name then
      { a with name := (a.name.dropWhile (· != byte ':')).drop 1 }
    else a

/-- In foreign content; `read` reads a token in the current mode. -/
def foreignMode (read : Builder → Token → Outcome) (b : Builder) (t : Token) : Outcome :=
  match t with
  | .text s =>
    ((if s.all fun c => isSpace c || c == 0 then b else b.forbidFrameset), none)
  | .startTag name attributes selfClosing =>
    if breaksOut name attributes then
      let kept := b.stack.dropWhile fun id =>
        let e := b.element id
        !(e.vocabulary = .html || takesHtml e || takesText e)
      ({ b with stack := kept }, some t)
    else
      let vocabulary := (b.element b.top).vocabulary
      let name :=
        if vocabulary = .svg && name == bytes "foreignobject" then bytes "foreignObject" else name
      let b := { b with raw := none }.addForeign vocabulary name (foreignAttributes attributes)
      ((if selfClosing then b.pop else b), none)
  | .endTag name =>
    let inside := b.stack.takeWhile fun id =>
      let e := b.element id
      !(e.vocabulary = .html || e.name.map Bytes.lower == name)
    match b.stack.drop inside.length with
    | [] => (b, none)
    | id :: outer =>
      if (b.element id).vocabulary = .html then read b t else ({ b with stack := outer }, none)
  | _ => (b, none)

/-! ## §6 All tokens -/

/-- Reads a token in the current mode. -/
def readInMode (implied : Implied) (b : Builder) (t : Token) : Outcome :=
  match b.mode with
  | .initial => b.initialMode t
  | .beforeHtml => b.beforeHtmlMode t
  | .beforeHead => beforeHeadMode implied b t
  | .inHead => inHeadMode implied b t
  | .afterHead => afterHeadMode implied b t
  | .inBody => bodyMode implied b t
  | .text => b.textMode t
  | .inTable => tableMode implied b t
  | .inCaption => captionMode implied b t
  | .inColumnGroup => columnGroupMode implied b t
  | .inTableBody => tableBodyMode implied b t
  | .inRow => rowMode implied b t
  | .inCell => cellMode implied b t
  | .inSelect => selectMode implied b t
  | .inSelectInTable => selectInTableMode implied b t
  | .inTemplate => templateMode implied b t
  | .afterBody => afterBodyMode implied b t .afterAfterBody
  | .inFrameset => framesetMode implied b t
  | .afterFrameset => afterFramesetMode implied b t
  | .afterAfterBody => afterBodyMode implied b t .afterAfterBody
  | .afterAfterFrameset => afterFramesetMode implied b t
  | .ignoring => (b, none)

/-- Reads a token once. -/
def step (implied : Implied) (b : Builder) (t : Token) : Outcome :=
  if b.isForeign t then foreignMode (readInMode implied) b t else readInMode implied b t

/-- Reads a token until it is used up; `fuel` bounds how often it is handed on. -/
def process : Nat → Builder → Token → Builder
  | 0, b, _ => b
  | fuel + 1, b, t =>
    match b.step (process fuel) t with
    | (b, none) => b
    | (b, some t) => process fuel b t

/-- Reads a token.  It is handed on at most a few times for each open element. -/
def read (b : Builder) (t : Token) : Builder :=
  let raw := match t with
    | .startTag name _ _ => if rawNames.contains name then some name else none
    | _ => none
  { b with raw }.process (4 * b.stack.length + 40) t

/-- Reads the tokens of a page; `fuel` bounds their number. -/
def readPage : Nat → Builder → Bytes → Builder
  | 0, b, _ => b
  | fuel + 1, b, s =>
    let foreign := !b.stack.isEmpty && (b.element b.top).vocabulary ≠ .html
    match nextToken b.raw foreign s with
    | (.done, _) => b.read .done
    | (t, rest) => if b.overflow then b else readPage fuel (b.read t) rest

end Builder

/-- The document of a page; none if too many elements are open at once. -/
def parsePage? (s : Bytes) : Option Document :=
  let b := Builder.readPage (s.length + 2) .start s
  if b.overflow then none else some b.document

end Html

end DocPages
