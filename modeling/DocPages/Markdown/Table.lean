import DocPages.Markdown.Characters

/-!
# Tables

A table stands at the end of a paragraph: a header row, a delimiter row such as `|:--|--:|` with as
many columns, then the body rows.  A bar in a cell is written with a backslash.

## Main definitions

- `Alignment`, `Cell`, `Table`
- `alignments?`: reads a delimiter row
- `splitTable?`: finds the table in the lines of a paragraph
-/

namespace DocPages

namespace Markdown

/-- How a column is aligned. -/
inductive Alignment where
  | left
  | right
  | center
  | none
  deriving DecidableEq, Repr

/-- A cell: its alignment and its text. -/
structure Cell where
  alignment : Alignment
  text : Bytes
  deriving DecidableEq, Repr

/-- A table: the cells of its header and of its body rows. -/
structure Table where
  header : List Cell
  rows : List (List Cell)
  deriving DecidableEq, Repr

/-- Reads one column of a delimiter row: hyphens with a colon at either end or both. -/
def alignment? (column : Bytes) : Option Alignment :=
  let s := trimSpaces column
  let inner := Bytes.trimSuffix (bytes ":") (Bytes.trimPrefix (bytes ":") s)
  let left := (bytes ":").isPrefixOf s
  let right := (bytes ":").isSuffixOf s
  if inner.isEmpty || !inner.all (· == byte '-') then Option.none
  else some (if left && right then .center else if left then .left else if right then .right else .none)

/-- A line that may be a delimiter row: hyphens, bars, colons and spaces, not hyphens alone, and
    indented by at most three columns. -/
def isDelimiterRow (line : Bytes) : Bool :=
  (indentation 0 line).1 ≤ 3 && !line.all (· == byte '-') &&
    line.all fun b => isSpace b || b == byte '-' || b == byte '|' || b == byte ':'

/-- The alignments of a delimiter row, one for each column. -/
def alignments? (line : Bytes) : Option (List Alignment) :=
  if !isDelimiterRow line then Option.none
  else
    let columns := Bytes.splitOn (byte '|') line
    let columns := if (columns.head?.map isBlankLine).getD false then columns.drop 1 else columns
    let columns :=
      if (columns.getLast?.map isBlankLine).getD false then columns.dropLast else columns
    match columns.mapM alignment? with
    | some (a :: rest) => some (a :: rest)
    | _ => Option.none

/-- The texts between the bars of a row that no backslash precedes. -/
def cutCells (escaped : Bool) : Bytes → List Bytes
  | [] => [[]]
  | b :: rest =>
    if b = byte '|' && !escaped then [] :: cutCells false rest
    else
      match cutCells (b == 0x5C) rest with
      | [] => [[b]]
      | cell :: more => (b :: cell) :: more

/-- The texts of the cells of a row, without the bars around it.  Nothing at all after a bar is no
    cell. -/
def rowTexts (line : Bytes) : List Bytes :=
  let s := trimSpaces line
  let s := Bytes.trimPrefix (bytes "|") s
  let s := Bytes.trimSuffix (bytes "|") s
  let cells := cutCells false s
  (if cells.getLast? = some [] then cells.dropLast else cells).map trimSpaces

/-- The cells of a body row: extra cells are dropped, and missing ones are empty. -/
def bodyRow (alignments : List Alignment) (line : Bytes) : List Cell :=
  let cells := (alignments.zip (rowTexts line)).map fun (a, text) => ⟨a, text⟩
  cells ++ List.replicate (alignments.length - cells.length) ⟨.none, []⟩

/-- The table that begins with these lines. -/
def tableAt? (header delimiter : Bytes) (rows : List Bytes) : Option Table :=
  match alignments? delimiter with
  | Option.none => Option.none
  | some alignments =>
    let texts := rowTexts header
    if texts.length == alignments.length then
      some ⟨(alignments.zip texts).map fun (a, text) => ⟨a, text⟩, rows.map (bodyRow alignments)⟩
    else Option.none

/-- Whether a line could be the delimiter row of a table. -/
def endsSearch (delimiter : Bytes) : Bool := (alignments? delimiter).isSome

/-- Finds the table in the lines of a paragraph: the lines before it and the table.  The first
    delimiter row decides. -/
def splitTable? : List Bytes → Option (List Bytes × Table)
  | header :: delimiter :: rows =>
    if endsSearch delimiter then (tableAt? header delimiter rows).map fun t => ([], t)
    else (splitTable? (delimiter :: rows)).map fun (before, t) => (header :: before, t)
  | _ => Option.none

end Markdown

end DocPages
