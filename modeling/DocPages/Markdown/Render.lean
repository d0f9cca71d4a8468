import DocPages.Markdown.Block.Parse
import DocPages.Markdown.Inline.Parse
import DocPages.Html.Reference

/-!
# Markdown to HTML

Blocks and inline content as HTML.  Text from the source is escaped; character references and
backslash escapes in it are read first.  Raw HTML passes as it is, except that a zero byte is never
written.

## Main definitions

- `writeText`: source text as HTML
- `escapeUrl`: a destination as it stands in an attribute
- `toHtml`: a document as HTML
-/

namespace DocPages

namespace Markdown

/-! ## §1 Text -/

/-- How one byte of text is written. -/
def escapeByte (b : UInt8) : Bytes :=
  match b with
  | 0x26 => bytes "&amp;"
  | 0x3C => bytes "&lt;"
  | 0x3E => bytes "&gt;"
  | 0x22 => bytes "&quot;"
  | b => [b]

/-- Text with everything escaped that HTML would read as markup. -/
def escapeText (s : Bytes) : Bytes := s.flatMap escapeByte

/-- The character with a number; zero and what is no character give U+FFFD. -/
def numbered (c : Nat) : Bytes := if c = 0 then encodeRune Utf8.replacement else encodeRune c

/-- Reads digits in a base. -/
def numeral (base : Nat) (digits : Bytes) : Nat :=
  digits.foldl (fun n d => n * base + (Bytes.hexValue? d).getD 0) 0

/-- Reads a character reference after its ampersand: the characters it stands for and the bytes it
    takes. -/
def reference? (s : Bytes) : Option (Bytes × Nat) :=
  let close := fun (start : Nat) (digits value : Bytes) =>
    if (s.drop (start + digits.length)).head? == some (byte ';') then
      some (value, start + digits.length + 1)
    else none
  match s with
  | 0x23 :: c :: rest =>
    if c = byte 'x' || c = byte 'X' then
      let digits := rest.takeWhile fun b => (Bytes.hexValue? b).isSome
      if digits.isEmpty || 7 ≤ digits.length then none
      else close 2 digits (numbered (numeral 16 digits))
    else
      let digits := (c :: rest).takeWhile Bytes.isDigit
      if digits.isEmpty || 8 ≤ digits.length then none
      else close 1 digits (numbered (numeral 10 digits))
  | _ =>
    let name := s.takeWhile Bytes.isAlphanumeric
    if name.isEmpty then none else (Html.character? name).bind (close 0 name)

/-- Source text with references and escapes read, each result through `out`; a zero byte becomes
    U+FFFD.  `skip` bytes are passed over, and `escaped` says that a backslash stands just before,
    which is still to be written. -/
def writeFrom (out : Bytes → Bytes) : Nat → Bool → Bytes → Bytes
  | _, escaped, [] => if escaped then out [0x5C] else []
  | skip + 1, escaped, _ :: rest => writeFrom out skip escaped rest
  | 0, escaped, b :: rest =>
    if escaped && isMark b then out [b] ++ writeFrom out 0 false rest
    else
      let before := if escaped then out [0x5C] else []
      if b = 0x5C then before ++ writeFrom out 0 true rest
      else if b = 0 then before ++ encodeRune Utf8.replacement ++ writeFrom out 0 false rest
      else if b = 0x26 then
        match reference? rest with
        | some (value, taken) => before ++ out value ++ writeFrom out taken false rest
        | none => before ++ out [b] ++ writeFrom out 0 false rest
      else before ++ out [b] ++ writeFrom out 0 false rest

/-- Source text as HTML. -/
def writeText (s : Bytes) : Bytes := writeFrom escapeText 0 false s

/-- Raw HTML, without zero bytes. -/
def writeRaw (s : Bytes) : Bytes :=
  s.flatMap fun b => if b = 0 then encodeRune Utf8.replacement else [b]

/-! ## §2 Destinations -/

/-- The bytes that stand in a destination as they are. -/
def isPlainUrlByte (b : UInt8) : Bool :=
  Bytes.isAlphanumeric b || (bytes "!#$&'()*+,-./:;=?@_~").contains b

/-- A byte as a percent sign and two digits. -/
def percentByte (b : UInt8) : Bytes :=
  let digit := fun (n : Nat) => if n < 10 then (0x30 + n).toUInt8 else (0x37 + n).toUInt8
  [byte '%', digit (b.toNat / 16), digit (b.toNat % 16)]

/-- How many bytes the UTF-8 sequence that a byte begins has; none when it begins no sequence. -/
def sequenceLength? (b : UInt8) : Option Nat :=
  if b < 0x80 then some 1
  else if b < 0xC2 then none
  else if b < 0xE0 then some 2
  else if b < 0xF0 then some 3
  else if b < 0xF5 then some 4
  else none

/-- A destination with everything else than plain bytes and percent escapes written as percent
    escapes.  `sure` bytes of a sequence are still to be escaped. -/
def percentFrom : Nat → Bytes → Bytes
  | _, [] => []
  | sure + 1, b :: rest =>
    (if Bytes.isAlphanumeric b || (bytes "-_.~").contains b then [b] else percentByte b) ++
      percentFrom sure rest
  | 0, b :: rest =>
    if isPlainUrlByte b then b :: percentFrom 0 rest
    else if b = byte '%' && (match rest with
        | c :: _ :: _ => (Bytes.hexValue? c).isSome
        | _ => false) then
      b :: percentFrom 0 rest
    else
      match sequenceLength? b with
      | none => b :: percentFrom 0 rest
      | some n =>
        if rest.length + 1 < n then percentFrom 0 rest
        else percentByte b ++ percentFrom (n - 1) rest

/-- A destination as it stands in an attribute. -/
def escapeUrl (s : Bytes) : Bytes := escapeText (percentFrom 0 s)

/-- The destination of a link with references and escapes read. -/
def readUrl (s : Bytes) : Bytes := writeFrom id 0 false s

/-! ## §3 Inline content -/

/-- The end of a piece of text. -/
def writeBreak : LineBreak → Bytes
  | .none => []
  | .soft => bytes "\n"
  | .hard => bytes "<br>\n"

/-- The title attribute of a link or image. -/
def titleAttribute (title : Option Bytes) : Bytes :=
  match title with
  | some t => bytes " title=\"" ++ writeText t ++ bytes "\""
  | none => []

/-- Newlines in code as spaces. -/
def codeText (s : Bytes) : Bytes := s.map fun b => if b = 0x0A then 0x20 else b

mutual

/-- The text inside inline content, for the description of an image. -/
def Inline.plain : Inline → Bytes
  | .text raw lineBreak => writeText raw ++ writeBreak lineBreak
  | .code content => escapeText content
  | .emphasis content => plainAll content
  | .strong content => plainAll content
  | .strikethrough content => plainAll content
  | .link _ content => plainAll content
  | .image _ content => plainAll content
  | .address _ => []
  | .html _ => []
  | .checkbox _ => []

/-- The text inside several pieces of inline content. -/
def plainAll : List Inline → Bytes
  | [] => []
  | i :: rest => i.plain ++ plainAll rest

end

mutual

/-- Inline content as HTML. -/
def Inline.markup : Inline → Bytes
  | .text raw lineBreak => writeText raw ++ writeBreak lineBreak
  | .code content => bytes "<code>" ++ escapeText (codeText content) ++ bytes "</code>"
  | .emphasis content => bytes "<em>" ++ htmlAll content ++ bytes "</em>"
  | .strong content => bytes "<strong>" ++ htmlAll content ++ bytes "</strong>"
  | .strikethrough content => bytes "<del>" ++ htmlAll content ++ bytes "</del>"
  | .link target content =>
    bytes "<a href=\"" ++ escapeUrl (readUrl target.destination) ++ bytes "\"" ++
      titleAttribute target.title ++ bytes ">" ++ htmlAll content ++ bytes "</a>"
  | .image target content =>
    bytes "<img src=\"" ++ escapeUrl (readUrl target.destination) ++ bytes "\" alt=\"" ++
      plainAll content ++ bytes "\"" ++ titleAttribute target.title ++ bytes ">"
  | .address a =>
    bytes "<a href=\"" ++ escapeUrl a.target ++ bytes "\">" ++ escapeText a.text ++ bytes "</a>"
  | .html raw => raw
  | .checkbox checked =>
    bytes "<input " ++ (if checked then bytes "checked=\"\" " else []) ++
      bytes "disabled=\"\" type=\"checkbox\"> "

/-- Several pieces of inline content as HTML. -/
def htmlAll : List Inline → Bytes
  | [] => []
  | i :: rest => i.markup ++ htmlAll rest

end

/-- The text of a block as HTML. -/
def writeInline (ctx : InlineContext) (text : Bytes) : Bytes := htmlAll (parseInline ctx text)

/-! ## §4 Blocks -/

/-- The attribute of a cell that aligns it. -/
def Alignment.attribute : Alignment → Bytes
  | .left => bytes " style=\"text-align:left\""
  | .right => bytes " style=\"text-align:right\""
  | .center => bytes " style=\"text-align:center\""
  | .none => []

/-- A row of a table, its cells being `tag` elements. -/
def writeRow (targets : Targets) (tag : Bytes) (cells : List Cell) : Bytes :=
  bytes "<tr>\n" ++ (cells.flatMap fun cell =>
    bytes "<" ++ tag ++ cell.alignment.attribute ++ bytes ">" ++
      writeInline ⟨targets, false, true⟩ cell.text ++ bytes "</" ++ tag ++ bytes ">\n") ++
    bytes "</tr>\n"

/-- A table. -/
def writeTable (targets : Targets) (t : Table) : Bytes :=
  bytes "<table>\n<thead>\n" ++ writeRow targets (bytes "th") t.header ++ bytes "</thead>\n" ++
    (if t.rows.isEmpty then []
      else bytes "<tbody>\n" ++ t.rows.flatMap (writeRow targets (bytes "td")) ++ bytes "</tbody>\n") ++
    bytes "</table>\n"

/-- The class of fenced code: the first word of its info text. -/
def languageClass (info : Option Bytes) : Bytes :=
  match info with
  | some text =>
    bytes " class=\"language-" ++ writeText (text.takeWhile (· != 0x20)) ++ bytes "\""
  | none => []

/-- Whether a block is the text of a tight item. -/
def Block.isTextBlock : Block → Bool
  | .textBlock _ => true
  | _ => false

mutual

/-- A block as HTML.  `opensItem` says that it is the first of a list item, and `followed` that
    another block follows it there. -/
def Block.markup (targets : Targets) (opensItem followed : Bool) : Block → Bytes
  | .paragraph text =>
    bytes "<p>" ++ writeInline ⟨targets, opensItem, false⟩ text ++ bytes "</p>\n"
  | .textBlock text =>
    let content := parseInline ⟨targets, opensItem, false⟩ text
    htmlAll content ++ (if followed && !content.isEmpty then bytes "\n" else [])
  | .heading level text =>
    let tag := byte 'h' :: Bytes.decimalNat level
    bytes "<" ++ tag ++ bytes ">" ++ writeInline ⟨targets, opensItem, false⟩ text ++ bytes "</" ++
      tag ++ bytes ">\n"
  | .thematicBreak => bytes "<hr>\n"
  | .code text => bytes "<pre><code>" ++ escapeText (writeRaw text) ++ bytes "</code></pre>\n"
  | .fencedCode info text =>
    bytes "<pre><code" ++ languageClass info ++ bytes ">" ++ escapeText (writeRaw text) ++
      bytes "</code></pre>\n"
  | .html text => writeRaw text
  | .quote content =>
    bytes "<blockquote>\n" ++ blocksHtml targets false content ++ bytes "</blockquote>\n"
  | .list start content =>
    let tag := if start.isSome then bytes "ol" else bytes "ul"
    let startText := match start with
      | some n => if n = 1 then [] else bytes " start=\"" ++ Bytes.decimalNat n ++ bytes "\""
      | none => []
    bytes "<" ++ tag ++ startText ++ bytes ">\n" ++ blocksHtml targets false content ++ bytes "</" ++
      tag ++ bytes ">\n"
  | .item _ content =>
    let inner := blocksHtml targets true content
    bytes "<li>" ++
      (match content with
        | [] => []
        | first :: _ => if first.isTextBlock then [] else bytes "\n") ++
      inner ++ bytes "</li>\n"
  | .table t => writeTable targets t

/-- Blocks as HTML, the first of which may open a list item. -/
def blocksHtml (targets : Targets) (opensItem : Bool) : List Block → Bytes
  | [] => []
  | b :: rest => b.markup targets opensItem (!rest.isEmpty) ++ blocksHtml targets false rest

end

/-- A document as HTML. -/
def toHtml (s : Bytes) : Bytes :=
  let (blocks, targets) := parseBlocks s
  blocksHtml targets false blocks

end Markdown

end DocPages
