import DocPages.Markdown.Block
import DocPages.Markdown.Tag

/-!
# Reading Blocks

A document is read line by line.  Each line first meets the open blocks from the outermost inwards:
a block takes its part of the line and passes the rest on, or does not continue.  What is left may
open new blocks, which closes the blocks that did not continue; otherwise a paragraph at the end of
the open blocks takes the line, even one that did not continue.

## Main definitions

- `Parser`: the state between two lines
- `continueBlock`: what an open block makes of a line
- `openBlock?`: the block that a line opens
- `Parser.line`: reads one line
- `parseBlocks`: the blocks of a document and the targets it defines
-/

namespace DocPages

namespace Markdown

/-! ## §1 Recognising lines -/

/-- A thematic break: three or more of the same mark, with any spaces between. -/
def isThematicBreak (column : Nat) (line : Bytes) : Bool :=
  let marks := line.filter fun b => !isSpace b
  (indentation column line).1 ≤ 3 && 3 ≤ marks.length &&
    match marks with
    | [] => false
    | b :: rest => (b == byte '*' || b == byte '-' || b == byte '_') && rest.all (· == b)

/-- The level of the heading that an underline makes of the paragraph above it. -/
def underlineLevel? (line : Bytes) : Option Nat :=
  let indent := (line.takeWhile (· == 0x20)).length
  let bar := trimEnd (line.drop indent)
  match bar with
  | [] => none
  | b :: rest =>
    if 3 < indent || !rest.all (· == b) then none
    else if b = byte '=' then some 1
    else if b = byte '-' then some 2
    else none

/-- A list marker at the beginning of a line. -/
structure Marker where
  /-- The spaces in front. -/
  indent : Nat
  /-- The byte that tells lists apart: the bullet, or what follows the number. -/
  mark : UInt8
  /-- The number, if there is one. -/
  number : Option Nat
  /-- How many bytes the spaces and the marker take. -/
  length : Nat
  /-- What follows the marker. -/
  after : Bytes

/-- Reads digits as a number. -/
def readNumber (digits : Bytes) : Nat := digits.foldl (fun n d => n * 10 + (d.toNat - 0x30)) 0

/-- Reads a list marker: at most three spaces, a bullet or up to nine digits with a dot or
    parenthesis, then a blank or the end of the line. -/
def marker? (line : Bytes) : Option Marker :=
  let indent := (line.takeWhile (· == 0x20)).length
  let rest := line.drop indent
  let digits := rest.takeWhile Bytes.isDigit
  let found : Option Marker :=
    match rest.drop digits.length with
    | [] => none
    | b :: after =>
      if digits.isEmpty then
        if b = byte '-' || b = byte '*' || b = byte '+' then some ⟨indent, b, none, indent + 1, after⟩
        else none
      else if digits.length ≤ 9 && (b = byte '.' || b = byte ')') then
        some ⟨indent, b, some (readNumber digits), indent + digits.length + 1, after⟩
      else none
  match found with
  | none => none
  | some m =>
    if 3 < indent then none
    else
      match m.after with
      | [] => some m
      | b :: _ => if b = 0x0A || b = 0x20 || b = 0x09 then some m else none

namespace Marker

/-- Whether nothing but spaces follows the marker. -/
def isEmpty (m : Marker) : Bool := isBlankLine m.after

/-- The columns between the marker and the text of its item: one when the text is code or missing. -/
def gap (m : Marker) : Nat :=
  if m.isEmpty then 1
  else
    let width := (indentation m.length m.after).1
    if 4 < width then 1 else width

end Marker

/-- Reads a heading of one to six number signs: its level and text, without closing signs. -/
def heading? (line : Bytes) : Option (Nat × Bytes) :=
  let s := line.drop (indentation 0 line).2
  let level := (s.takeWhile (· == byte '#')).length
  let rest := s.drop level
  if level = 0 || 6 < level then none
  else if rest.isEmpty then some (level, [])
  else if !(rest.head?.map isSpace).getD false then none
  else
    let text := trimSpaces rest
    let open' := Bytes.dropEndWhile (· == byte '#') text
    if open'.isEmpty then some (level, [])
    else if (open'.getLast?.map isSpace).getD false then some (level, trimEnd open')
    else some (level, text)

/-- Reads the opening fence of a code block and its info text, which may hold no backtick after
    backticks. -/
def fence? (column : Nat) (line : Bytes) : Option (Fence × Option Bytes) :=
  let indent := (indentation column line).2
  match line.drop indent with
  | [] => none
  | b :: _ =>
    let length := ((line.drop indent).takeWhile (· == b)).length
    let info := trimSpaces (line.drop (indent + length))
    if !(b = 0x60 || b = byte '~') || length < 3 then none
    else if b = 0x60 && info.contains 0x60 then none
    else some (⟨b, length, indent⟩, if info.isEmpty then none else some info)

/-! ## §2 Raw HTML -/

/-- The elements that begin a block of raw HTML wherever they stand. -/
def blockElements : List Bytes :=
  ["address", "article", "aside", "base", "basefont", "blockquote", "body", "caption", "center",
    "col", "colgroup", "dd", "details", "dialog", "dir", "div", "dl", "dt", "fieldset", "figcaption",
    "figure", "footer", "form", "frame", "frameset", "h1", "h2", "h3", "h4", "h5", "h6", "head",
    "header", "hr", "html", "iframe", "legend", "li", "link", "main", "menu", "menuitem", "meta",
    "nav", "noframes", "ol", "optgroup", "option", "p", "param", "search", "section", "summary",
    "table", "tbody", "td", "tfoot", "th", "thead", "title", "tr", "track", "ul"].map bytes

/-- The elements whose content is raw. -/
def rawElements : List Bytes := ["script", "pre", "style", "textarea"].map bytes

/-- A text in small letters. -/
def lowerCase (s : Bytes) : Bytes := s.map Bytes.lower

/-- What follows the name of an element whose content is raw, if a name in some texts begins the
    line. -/
def isRawStart (s : Bytes) : Bool :=
  rawElements.any fun name =>
    match Bytes.dropPrefix? name (lowerCase s) with
    | none => false
    | some rest =>
      match rest with
      | [] => true
      | b :: more => isSpace b || b == byte '>' || (b == byte '/' && more.head? == some (byte '>'))

/-- Whether a line holds the closing tag of an element whose content is raw. -/
def hasRawEnd (line : Bytes) : Bool :=
  rawElements.any fun name => Bytes.includes (bytes "</" ++ name ++ bytes ">") (lowerCase line)

/-- Whether a line is one complete tag that no other text follows, the name of the tag, and whether
    it is a closing tag with attributes. -/
def loneTag? (s : Bytes) : Option (Bytes × Bool) := do
  let rest ← Bytes.dropPrefix? (bytes "<") s
  let slash := (bytes "/").isPrefixOf rest
  let spaced := slash && (rest.drop 1).head? == some 0x20
  let rest := if slash then (rest.drop 1).dropWhile (· == 0x20) else rest
  let (name, rest) ← tagName? rest
  let (rest, attributes) := afterAttributes rest.length rest
  let rest := rest.dropWhile (· == 0x20)
  let rest ← Bytes.dropPrefix? (bytes ">") (Bytes.trimPrefix (bytes "/") rest)
  let rest := rest.dropWhile (· == 0x20)
  if rest.isEmpty || rest == bytes "\n" || rest == bytes "\r\n" then
    return (lowerCase name, slash && !spaced && attributes)
  else none

/-- Whether a line begins with the tag of a block element. -/
def isBlockTag (s : Bytes) : Bool :=
  match Bytes.dropPrefix? (bytes "<") s with
  | none => false
  | some rest =>
    let rest := match Bytes.dropPrefix? (bytes "/") rest with
      | some r => r.dropWhile (· == 0x20)
      | none => rest
    match tagName? rest with
    | none => false
    | some (name, after) =>
      blockElements.contains (lowerCase name) &&
        match after with
        | [] => true
        | b :: more =>
          b == 0x20 || b == byte '>' || b == 0x0A || (b == 0x0D && more == [0x0A]) ||
            (b == byte '/' && more.head? == some (byte '>'))

/-- The form of the raw HTML block that a line opens; a lone tag does not end a paragraph. -/
def htmlForm? (afterParagraph : Bool) (line : Bytes) : Option HtmlForm :=
  let s := line.dropWhile (· == 0x20)
  if isRawStart (s.drop 1) then some .rawElement
  else if (bytes "<!--").isPrefixOf s then some (.until (bytes "-->"))
  else if (bytes "<?").isPrefixOf s then some (.until (bytes "?>"))
  else if (bytes "<!").isPrefixOf s && ((s.drop 2).head?.map Bytes.isUpper).getD false then
    some (.until (bytes ">"))
  else if (bytes "<![CDATA[").isPrefixOf s then some (.until (bytes "]]>"))
  else if isBlockTag s then some .untilBlank
  else
    match loneTag? s with
    | some (name, odd) =>
      if blockElements.contains name then some .untilBlank
      else if rawElements.contains name && name != bytes "textarea" then none
      else if afterParagraph || odd then none
      else some .untilBlank
    | none => none

/-! ## §3 The state -/

/-- What is known between two lines. -/
structure Parser where
  /-- Finished blocks of the document, newest first. -/
  done : List (Bool × Block)
  /-- Open blocks, outermost first. -/
  opened : List OpenBlock
  targets : Targets
  /-- Whether an item without content is followed by a blank line. -/
  emptyItem : Bool
  /-- Whether the next marker begins an item and not a list. -/
  skipList : Bool
  /-- Whether the line before was blank, as each of the open blocks saw it; nothing before the first
      line and after a gap. -/
  blanks : Option (List Bool)

namespace Parser

/-- The state before the first line. -/
def start : Parser := ⟨[], [], [], false, false, none⟩

/-- Adds finished blocks to the innermost open block, or to the document. -/
def addBlocks (p : Parser) (more : List (Bool × Block)) : Parser :=
  match p.opened.reverse with
  | [] => { p with done := more.reverse ++ p.done }
  | last :: outer => { p with opened := (last.add more :: outer).reverse }

/-- Closes the innermost open block. -/
def closeLast (p : Parser) : Parser :=
  match p.opened.getLast? with
  | none => p
  | some last =>
    let (targets, blocks) := last.close p.targets
    { p with opened := p.opened.dropLast, targets }.addBlocks blocks

/-- Closes `n` open blocks, the innermost first. -/
def closeMany : Nat → Parser → Parser
  | 0, p => p
  | n + 1, p => closeMany n p.closeLast

/-- Keeps only the outermost `n` blocks open. -/
def keep (n : Nat) (p : Parser) : Parser := closeMany (p.opened.length - n) p

/-- Opens a block inside the innermost open one. -/
def push (p : Parser) (b : OpenBlock) : Parser := { p with opened := p.opened ++ [b] }

/-- Changes the open block at a level. -/
def modifyAt (p : Parser) (level : Nat) (f : OpenBlock → OpenBlock) : Parser :=
  { p with opened := p.opened.modify level f }

/-- Whether the line before was blank for blocks at a level: as seen by the deepest block up to
    there. -/
def blankBefore (p : Parser) (level : Nat) : Bool :=
  match p.blanks with
  | none => true
  | some seen => ((seen.take (level + 1)).getLast?).getD false

end Parser

/-! ## §4 Continuing blocks -/

/-- What an open block makes of a line. -/
inductive Continuation where
  /-- It ends before the line. -/
  | close
  /-- It ends with the line. -/
  | closeAfter
  /-- It takes the line. -/
  | taken
  /-- It takes a part, and blocks inside it get the rest. -/
  | inside

/-- What a quotation makes of a line: it continues after its mark and one blank. -/
def quoteMark? (c : Cursor) : Option Cursor :=
  let (width, count) := indentation c.column c.text
  match c.text.drop count with
  | [] => none
  | b :: rest =>
    if 3 < width || b != byte '>' then none
    else
      let c := c.advance (count + 1)
      match rest with
      | 0x20 :: _ => some (c.advance 1)
      | 0x09 :: _ => some ((c.advance 1).giveBack (tabWidth c.column - 1))
      | _ => some c

/-- Whether the last item of a list is empty: the item that is open inside it, given with the blocks
    inside that, or else its last finished one. -/
def lastItemEmpty (list : OpenBlock) (inside : List OpenBlock) : Bool :=
  match inside with
  | item :: deeper => item.content.isEmpty && deeper.isEmpty
  | [] =>
    match list.content with
    | (_, .item _ content) :: _ => content.isEmpty
    | _ => true

/-- What a list makes of a line. `last` is the innermost open block. -/
def continueList (p : Parser) (c : Cursor) (marker : UInt8) (ordered : Bool) (offset : Nat)
    (lastEmpty : Bool) (lastIsParagraph : Bool) : Parser × Continuation :=
  if isBlankLine c.text then ({ p with emptyItem := p.emptyItem || lastEmpty }, .inside)
  else
    let indent := (indentation c.column c.text).1
    let sibling :=
      if (indent < offset || lastEmpty) && indent < 4 then
        (marker? c.text).filter fun m => m.indent < offset + 4
      else none
    match sibling with
    | some m =>
      let tail := c.text.drop (m.length - 1)
      let isBreak := isThematicBreak 0 tail && !(lastIsParagraph && underlineLevel? tail == some 2)
      if m.mark != marker || m.number.isSome != ordered || isBreak then (p, .close) else (p, .inside)
    | none =>
      if indent < offset || p.emptyItem then (p, .close) else (p, .inside)

/-- What an item makes of a line. -/
def continueItem (p : Parser) (c : Cursor) (offset : Nat) (isEmpty : Bool) :
    Parser × Cursor × Continuation :=
  if isBlankLine c.text then (p, c.atEnd, .inside)
  else
    let isEmpty := isEmpty && p.emptyItem
    let indent := (indentation c.column c.text).1
    let inside := (p, (c.cutIndentation? offset).getD c, Continuation.inside)
    if (isEmpty || indent < offset) && indent < 4 then
      if (marker? c.text).isSome then ({ p with skipList := true }, c, .close)
      else if isEmpty then inside
      else (p, c, .close)
    else inside

/-- What fenced code makes of a line: it ends with a fence at least as long as its own, and loses as
    much indentation as its own fence has. -/
def continueFence (c : Cursor) (fence : Fence) (lines : List Bytes) : List Bytes × Continuation :=
  let (width, count) := indentation c.column c.text
  let rest := c.text.drop count
  let length := (rest.takeWhile (· == fence.mark)).length
  if width < 4 && fence.length ≤ length && isBlankLine (rest.drop length) then (lines, .closeAfter)
  else
    let line :=
      match c.cutIndentation? fence.indent with
      | some c => c.text
      | none => if isBlankLine c.text then c.text else rest
    (line :: lines, .taken)

/-- What raw HTML makes of a line. -/
def continueHtml (line : Bytes) (form : HtmlForm) (lines : List Bytes) : List Bytes × Continuation :=
  let ends := fun (l : Bytes) =>
    match form with
    | .rawElement => hasRawEnd l
    | .until closer => Bytes.includes closer l
    | .untilBlank => false
  match form with
  | .untilBlank => if isBlankLine line then (lines, .close) else (line :: lines, .taken)
  | _ =>
    match lines with
    | [first] =>
      if ends first then (lines, .close)
      else if ends line then (line :: lines, .closeAfter)
      else (line :: lines, .taken)
    | _ => if ends line then (line :: lines, .closeAfter) else (line :: lines, .taken)

/-- Drops up to four columns of indentation from a blank line. -/
def cutBlankLine (c : Cursor) : Bytes :=
  ((c.cutIndentation? 4).getD c.atEnd).text

/-- What the open block at a level makes of a line. `inside` are the open blocks inside it. -/
def continueBlock (p : Parser) (level : Nat) (b : OpenBlock) (inside : List OpenBlock) (c : Cursor) :
    Parser × Cursor × Continuation :=
  match b.form with
  | .paragraph _ => (p, c, .close)
  | .heading _ _ => (p, c, .close)
  | .thematicBreak => (p, c, .close)
  | .code lines =>
    let store := fun (line : Bytes) =>
      p.modifyAt level fun b => { b with form := .code (line :: lines) }
    if isBlankLine c.text then (store (cutBlankLine c), c, .taken)
    else
      match c.cutIndentation? 4 with
      | some c => (store c.text, c, .taken)
      | none => (p, c, .close)
  | .fencedCode fence info lines =>
    let (lines, next) := continueFence c fence lines
    (p.modifyAt level fun b => { b with form := .fencedCode fence info lines }, c, next)
  | .html form lines =>
    let (lines, next) := continueHtml c.text form lines
    (p.modifyAt level fun b => { b with form := .html form lines }, c, next)
  | .quote =>
    match quoteMark? c with
    | some c => (p, c, .inside)
    | none => (p, c, .close)
  | .list marker start offset =>
    let lastIsParagraph := (p.opened.getLast?.map OpenBlock.isParagraph).getD false
    let (p, next) :=
      continueList p c marker start.isSome offset (lastItemEmpty b inside) lastIsParagraph
    (p, c, next)
  | .item offset => continueItem p c offset (b.content.isEmpty && inside.isEmpty)

/-! ## §5 Opening blocks -/

/-- A block that a line opens: its form, and the rest of the line for blocks inside it if it can
    have some. -/
structure Opening where
  form : OpenForm
  inside : Option Cursor

/-- The list that a marker opens.  To end a paragraph, it must have text and begin with one. -/
def openList? (c : Cursor) (endsParagraph : Bool) : Option Opening :=
  match marker? c.text with
  | none => none
  | some m =>
    if endsParagraph && ((m.number.map (· != 1)).getD false || m.isEmpty) then none
    else some ⟨.list m.mark m.number 0, some c⟩

/-- The item that a marker opens inside a list whose last item begins at `offset`. -/
def openItem? (c : Cursor) (offset : Nat) : Option Opening :=
  match marker? c.text with
  | none => none
  | some m =>
    if offset + 3 < m.indent then none
    else
      let form := OpenForm.item (m.length + m.gap)
      if m.isEmpty then some ⟨form, none⟩
      else
        let c := c.advance m.length
        match cutIndentation? m.length m.gap c.text with
        | some (count, extra) => some ⟨form, some ((c.advance count).giveBack extra)⟩
        | none => some ⟨form, some c⟩

/-- A list or an item, if the line begins with a marker.  A marker opens a list unless one was just
    opened or continues. -/
def openByMarker? (p : Parser) (parent : Option OpenBlock) (c : Cursor) (endsParagraph blocked : Bool) :
    Parser × Option Opening :=
  let list := if blocked then none else openList? c endsParagraph
  let p := if blocked then { p with skipList := false } else p
  let found :=
    match list with
    | some o => some o
    | none =>
      match parent with
      | some ⟨.list _ _ offset, _, _⟩ => openItem? c offset
      | _ => none
  (if found.isSome then { p with emptyItem := false } else p, found)

/-- The leaf block or quotation that a line of at most three columns of indentation opens, lists and
    paragraphs apart. -/
def openPlain? (c : Cursor) (b : UInt8) (lastIsParagraph : Bool) : Option Opening :=
  let heading := if b == byte '#' then heading? c.text else none
  match heading with
  | some (level, text) => some ⟨.heading level text, none⟩
  | none =>
    match fence? c.column c.text with
    | some (fence, info) => some ⟨.fencedCode fence info [], none⟩
    | none =>
      match quoteMark? c with
      | some c => some ⟨.quote, some c⟩
      | none =>
        (if b == byte '<' then htmlForm? lastIsParagraph c.text else none).map fun form =>
          ⟨.html form [c.text], none⟩

/-- The block that a line opens inside `parent`, the kinds being tried in order.  `first` says that
    the line has opened none yet, so that a paragraph may still take it; `last` is the innermost open
    block, and `lastInParent` says that it stands in `parent`. -/
def openBlock? (p : Parser) (parent : Option OpenBlock) (c : Cursor) (first : Bool)
    (last : Option OpenBlock) (lastInParent : Bool) : Parser × Option Opening :=
  let (width, count) := indentation c.column c.text
  let lastIsParagraph := (last.map OpenBlock.isParagraph).getD false
  let continuable := first && lastIsParagraph
  match c.text.drop count with
  | [] => (p, none)
  | b :: _ =>
    if isBlankLine c.text then (p, none)
    else if 3 < width then
      if continuable then (p, none)
      else (p, (c.cutIndentation? 4).map fun c => ⟨.code [c.text], none⟩)
    else if isThematicBreak c.column c.text then (p, some ⟨.thematicBreak, none⟩)
    else
      let (p, found) :=
        if b == byte '-' || b == byte '+' || b == byte '*' || Bytes.isDigit b then
          openByMarker? p parent c (lastIsParagraph && lastInParent)
            (p.skipList || (last.map OpenBlock.isList).getD false)
        else (p, none)
      match found.or (openPlain? c b lastIsParagraph) with
      | some o => (p, some o)
      | none => (p, if continuable then none else some ⟨.paragraph [trimStart c.text], none⟩)

namespace Parser

/-- Opens a block inside the innermost open one.  A list learns where the text of its last item
    begins. -/
def pushForm (p : Parser) (form : OpenForm) (spaced : Bool) : Parser :=
  let p :=
    match form with
    | .item offset => p.modifyAt (p.opened.length - 1) fun b =>
        match b.form with
        | .list marker start _ => { b with form := .list marker start offset }
        | _ => b
    | _ => p
  p.push (.fresh form spaced)

/-- Opens the blocks inside a block that the same line opened; `fuel` bounds their number. -/
def openInside (spaced : Bool) : Nat → Parser → Cursor → Parser
  | 0, p, _ => p
  | fuel + 1, p, c =>
    let last := p.opened.getLast?
    match openBlock? p last c false last false with
    | (p, none) => p
    | (p, some o) =>
      let p := p.pushForm o.form spaced
      match o.inside with
      | some c => openInside spaced fuel p c
      | none => p

/-- Opens blocks inside the outermost `level` open blocks, or lets a paragraph take the line.  Unless
    a paragraph does, the other open blocks are closed. -/
def openAt (p : Parser) (level : Nat) (c : Cursor) (spaced : Bool) : Parser :=
  let last := p.opened.getLast?
  match openBlock? p (p.opened.take level).getLast? c true last (p.opened.length == level + 1) with
  | (p, some o) =>
    let p := (p.keep level).pushForm o.form spaced
    match o.inside with
    | some c => p.openInside spaced (c.text.length + 1) c
    | none => p
  | (p, none) =>
    match last with
    | some ⟨.paragraph lines, _, _⟩ =>
      if isBlankLine c.text then p.keep level
      else p.modifyAt (p.opened.length - 1) fun b =>
        { b with form := .paragraph (trimStart c.text :: lines) }
    | _ => p.keep level

/-- Turns the paragraph at the end of the open blocks into a heading under which the line draws a
    bar.  A paragraph of definitions only leaves nothing to make a heading of, and the bar is a line
    of its own. -/
def underline (p : Parser) (level : Nat) (c : Cursor) (spaced : Bool) (headingLevel : Nat)
    (paragraph : OpenBlock) (lines : List Bytes) : Parser :=
  let (targets, text, table) := closeParagraph p.targets lines.reverse
  let p := { p with opened := p.opened.dropLast, targets }
  if text.isEmpty then (p.addBlocks (paragraphBlocks paragraph.spaced [] table)).openAt level c spaced
  else
    let p := match table with
      | some t => p.addBlocks [(false, .table t)]
      | none => p
    p.push (.fresh (.heading headingLevel text) paragraph.spaced)

/-- What a line does after the outermost `level` open blocks have taken their part of it. -/
def openLine (p : Parser) (level : Nat) (c : Cursor) (spaced : Bool) : Parser :=
  match p.opened.getLast? with
  | some ⟨.paragraph lines, wasSpaced, content⟩ =>
    match (if p.opened.length == level + 1 then underlineLevel? c.text else none) with
    | some headingLevel =>
      p.underline level c spaced headingLevel ⟨.paragraph lines, wasSpaced, content⟩ lines
    | none => p.openAt level c spaced
  | _ => p.openAt level c spaced

/-- Lets the open blocks from a level on take their parts of a line.  `seen` says how the blocks
    outside saw the line: blank or not. -/
def walk (p : Parser) (level : Nat) (c : Cursor) (seen : List Bool) : List OpenBlock → Parser
  | [] => { p with blanks := some seen }
  | b :: inside =>
    let seen := seen ++ [isBlankLine c.text]
    match continueBlock p level b inside c with
    | (p, c, .close) => { p.openLine level c (p.blankBefore level) with blanks := some seen }
    | (p, c, .closeAfter) =>
      { p.openLine level c.atEnd (p.blankBefore level) with blanks := some seen }
    | (p, _, .taken) => { p with blanks := some seen }
    | (p, c, .inside) =>
      match inside with
      | [] => { p.openLine (level + 1) c (p.blankBefore (level + 1)) with blanks := some seen }
      | _ :: _ => walk p (level + 1) c seen inside

/-- Reads one line. -/
def line (p : Parser) (s : Bytes) : Parser :=
  if p.opened.isEmpty then
    if isBlankLine s then { p with blanks := none }
    else
      -- The line that opens the first block is seen by none.
      { p.openLine 0 ⟨0, s⟩ (p.blankBefore 0) with blanks := some [] }
  else p.walk 0 ⟨0, s⟩ [] p.opened

end Parser

/-- The blocks of a document and the targets that it defines. -/
def parseBlocks (s : Bytes) : List Block × Targets :=
  let p := ((Bytes.linesKeepingEnds s).foldl Parser.line .start).keep 0
  (p.done.reverse.map (·.2), p.targets)

end Markdown

end DocPages
