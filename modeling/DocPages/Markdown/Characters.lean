import DocPages.Text.Blank
import DocPages.Text.Punctuation

/-!
# Characters and Columns in Markdown

Markdown gives meaning to ASCII spaces and punctuation, and to the column at which a line's text
begins.  A tab reaches to the next multiple of four columns; where a marker takes only a part of a
tab, the rest of it counts as spaces.

## Main definitions

- `isSpace`, `isMark`: the two classes of ASCII bytes that matter
- `Cursor`: the rest of a line with the column where it begins
- `indentation`, `cutIndentation?`: the width of leading blanks, and cutting a part of it
-/

namespace DocPages

namespace Markdown

/-- An ASCII space or control that separates words. -/
def isSpace (b : UInt8) : Bool := b == 0x20 || (0x09 ≤ b && b ≤ 0x0D)

/-- An ASCII punctuation byte. -/
def isMark (b : UInt8) : Bool := b < 0x80 && isPunctuation b.toNat

/-- A rune that separates words. -/
def isSpaceRune (c : Nat) : Bool := isBlank c

/-- Whether a line holds only spaces. -/
def isBlankLine (s : Bytes) : Bool := s.all isSpace

/-- A text without leading spaces. -/
def trimStart (s : Bytes) : Bytes := s.dropWhile isSpace

/-- A text without trailing spaces. -/
def trimEnd (s : Bytes) : Bytes := Bytes.dropEndWhile isSpace s

/-- A text without spaces at either end. -/
def trimSpaces (s : Bytes) : Bytes := trimEnd (trimStart s)

/-! ## §1 Columns -/

/-- How many columns a tab at a column takes. -/
def tabWidth (column : Nat) : Nat := 4 - column % 4

/-- The width of the leading blanks of a text that begins at a column, and their number, added to
    what was counted before. -/
def indentationFrom (column width count : Nat) : Bytes → Nat × Nat
  | [] => (width, count)
  | b :: rest =>
    if b = 0x20 then indentationFrom column (width + 1) (count + 1) rest
    else if b = 0x09 then indentationFrom column (width + tabWidth (column + width)) (count + 1) rest
    else (width, count)

/-- The width of the leading blanks of a text that begins at a column, and their number. -/
def indentation (column : Nat) (s : Bytes) : Nat × Nat := indentationFrom column 0 0 s

/-- Walks over leading blanks until they are `wanted` columns wide: their number and the columns
    that the last of them reaches too far. -/
def cutIndentationFrom (column wanted width count : Nat) : Bytes → Option (Nat × Nat)
  | [] => if wanted ≤ width then some (count, width - wanted) else none
  | b :: rest =>
    if wanted ≤ width then some (count, width - wanted)
    else if b = 0x20 then cutIndentationFrom column wanted (width + 1) (count + 1) rest
    else if b = 0x09 then
      cutIndentationFrom column wanted (width + tabWidth (column + width)) (count + 1) rest
    else none

/-- The number of leading blanks that cover `wanted` columns, and the columns that the last of them
    reaches too far; nothing when the indentation is narrower. -/
def cutIndentation? (column wanted : Nat) (s : Bytes) : Option (Nat × Nat) :=
  cutIndentationFrom column wanted 0 0 s

/-- The rest of a line and the column where it begins. -/
structure Cursor where
  column : Nat
  text : Bytes
  deriving Repr

namespace Cursor

/-- The cursor after `n` more bytes. -/
def advance (c : Cursor) : Nat → Cursor
  | 0 => c
  | n + 1 =>
    match c.text with
    | [] => c
    | b :: rest =>
      advance ⟨if b = 0x09 then c.column + tabWidth c.column else c.column + 1, rest⟩ n

/-- The cursor with the columns that a tab reached too far given back as spaces. -/
def giveBack (c : Cursor) (columns : Nat) : Cursor :=
  ⟨c.column - columns, Bytes.fill columns 0x20 ++ c.text⟩

/-- Cuts `wanted` columns of indentation, if there are as many. -/
def cutIndentation? (c : Cursor) (wanted : Nat) : Option Cursor :=
  (Markdown.cutIndentation? c.column wanted c.text).map fun (count, extra) =>
    (c.advance count).giveBack extra

/-- The cursor at the end of its line. -/
def atEnd (c : Cursor) : Cursor :=
  ⟨c.column, if c.text.getLast? = some 0x0A then [0x0A] else []⟩

end Cursor

end Markdown

end DocPages
