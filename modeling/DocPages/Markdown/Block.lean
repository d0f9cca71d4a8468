import DocPages.Markdown.Definition
import DocPages.Markdown.Table

/-!
# Blocks

A document is a list of blocks.  Leaf blocks keep their text; its inline content is read when the
block is written.

## Main definitions

- `Block`: a block with everything inside it
- `Fence`, `HtmlForm`, `OpenForm`, `OpenBlock`: blocks that more lines may join
- `OpenBlock.close`: what an open block becomes
-/

namespace DocPages

namespace Markdown

/-- A finished block. -/
inductive Block where
  | paragraph (text : Bytes)
  /-- The text of a paragraph in a list without blank lines. -/
  | textBlock (text : Bytes)
  | heading (level : Nat) (text : Bytes)
  | thematicBreak
  | code (text : Bytes)
  | fencedCode (info : Option Bytes) (text : Bytes)
  | html (text : Bytes)
  | quote (content : List Block)
  /-- A list; an ordered one has a first number. -/
  | list (start : Option Nat) (content : List Block)
  /-- A list item, and whether blank lines separate its blocks. -/
  | item (spaced : Bool) (content : List Block)
  | table (table : Table)
  deriving Repr

/-- The fence of a code block: its byte, its length and its indentation. -/
structure Fence where
  mark : UInt8
  length : Nat
  indent : Nat
  deriving Repr

/-- What ends a block of raw HTML. -/
inductive HtmlForm where
  /-- The closing tag of an element whose content is raw. -/
  | rawElement
  /-- The given text. -/
  | until (closer : Bytes)
  /-- A blank line. -/
  | untilBlank
  deriving Repr

/-- The form of an open block. -/
inductive OpenForm where
  /-- Lines, newest first. -/
  | paragraph (lines : List Bytes)
  | heading (level : Nat) (text : Bytes)
  | thematicBreak
  /-- Lines, newest first. -/
  | code (lines : List Bytes)
  | fencedCode (fence : Fence) (info : Option Bytes) (lines : List Bytes)
  | html (form : HtmlForm) (lines : List Bytes)
  | quote
  /-- A list with its marker, its first number if ordered, and where the text of its last item
      begins. -/
  | list (marker : UInt8) (start : Option Nat) (offset : Nat)
  /-- An item and where its text begins. -/
  | item (offset : Nat)
  deriving Repr

/-- An open block with the blocks already inside it, newest first, and whether a blank line stands
    before it (before each of them). -/
structure OpenBlock where
  form : OpenForm
  spaced : Bool
  content : List (Bool × Block)
  deriving Repr

namespace OpenBlock

/-- A block that was just opened. -/
def fresh (form : OpenForm) (spaced : Bool) : OpenBlock := ⟨form, spaced, []⟩

/-- Whether the block is a paragraph. -/
def isParagraph (b : OpenBlock) : Bool :=
  match b.form with
  | .paragraph _ => true
  | _ => false

/-- Whether the block is a list. -/
def isList (b : OpenBlock) : Bool :=
  match b.form with
  | .list _ _ _ => true
  | _ => false

/-- The block with finished blocks added to it. -/
def add (b : OpenBlock) (more : List (Bool × Block)) : OpenBlock :=
  { b with content := more.reverse ++ b.content }

end OpenBlock

/-! ## Closing -/

/-- What the lines of a paragraph become: definitions go to the targets, a table at the end is a
    block of its own, and the rest is text.  The lines, oldest first, begin with no space. -/
def closeParagraph (targets : Targets) (lines : List Bytes) : Targets × Bytes × Option Table :=
  let text := lines.flatten
  let (targets, text) := definitions text.length targets text
  match splitTable? (Bytes.linesKeepingEnds text) with
  | some (before, table) => (targets, trimEnd before.flatten, some table)
  | none => (targets, trimEnd text, none)

/-- The blocks that a closed paragraph leaves.  When all of it was definitions an empty text stays
    in its place. -/
def paragraphBlocks (spaced : Bool) (text : Bytes) (table : Option Table) : List (Bool × Block) :=
  match text, table with
  | [], none => [(spaced, .textBlock [])]
  | [], some t => [(false, .table t)]
  | _, none => [(spaced, .paragraph text)]
  | _, some t => [(spaced, .paragraph text), (false, .table t)]

/-- Lines, newest first, without blank ones at the end. -/
def dropBlankLines (lines : List Bytes) : List Bytes := lines.dropWhile isBlankLine

/-- A line that ends with a newline. -/
def endLineOf (line : Bytes) : Bytes :=
  if line.getLast? = some 0x0A then line else line ++ [0x0A]

/-- Whether blank lines separate the blocks of a list: its items, or the blocks inside one. -/
def isLoose : List (Bool × Block) → Bool
  | [] => false
  | (_, first) :: rest =>
    let inner := fun (b : Block) => match b with
      | .item spaced _ => spaced
      | _ => false
    inner first || rest.any fun (spaced, b) => spaced || inner b

/-- An item of a list without blank lines: its paragraphs are plain text. -/
def tighten : Block → Block
  | .item spaced content => .item spaced (content.map fun b =>
      match b with
      | .paragraph text => .textBlock text
      | b => b)
  | b => b

/-- What an open block becomes, oldest first, with the targets that it defines. -/
def OpenBlock.close (targets : Targets) (b : OpenBlock) : Targets × List (Bool × Block) :=
  let content := b.content.reverse
  match b.form with
  | .paragraph lines =>
    let (targets, text, table) := closeParagraph targets lines.reverse
    (targets, paragraphBlocks b.spaced text table)
  | .heading level text => (targets, [(b.spaced, .heading level text)])
  | .thematicBreak => (targets, [(b.spaced, .thematicBreak)])
  | .code lines => (targets, [(b.spaced, .code ((dropBlankLines lines).reverse.flatMap endLineOf))])
  | .fencedCode _ info lines =>
    (targets, [(b.spaced, .fencedCode info (lines.reverse.flatMap endLineOf))])
  | .html _ lines => (targets, [(b.spaced, .html lines.reverse.flatten)])
  | .quote => (targets, [(b.spaced, .quote (content.map (·.2)))])
  | .list _ start _ =>
    let items := content.map (·.2)
    (targets, [(b.spaced, .list start (if isLoose content then items else items.map tighten))])
  | .item _ =>
    (targets, [(b.spaced, .item ((content.drop 1).any (·.1)) (content.map (·.2)))])

end Markdown

end DocPages
