import DocPages.Bytes

/-!
# Comma-Separated Lists

A list of texts may be given as one text, with commas between them.  A text that holds a comma, a quote
or a line break stands between double quotes, and a quote inside it is written twice.  Only the first
line that is not empty is read, with the lines that its quotes run over.

## Main definitions

- `CommaSeparated.Fault`: where and why a list cannot be read
- `CommaSeparated.read`: the texts of a list
-/

namespace DocPages

namespace CommaSeparated

/-- Why a list cannot be read; the last two with the line of the list, and the line and column of the
    fault. -/
inductive Fault where
  | ended
  | bareQuote (start line column : Nat)
  | strayQuote (start line column : Nat)
  deriving DecidableEq, Repr

/-- The place of a fault in words. -/
def placeText (start line column : Nat) : Bytes :=
  (if start == line then [] else bytes "record on line " ++ Bytes.decimalNat start ++ bytes "; ")
    ++ bytes "parse error on line " ++ Bytes.decimalNat line ++ bytes ", column "
    ++ Bytes.decimalNat column ++ bytes ": "

/-- The wording of a fault. -/
def Fault.message : Fault → Bytes
  | .ended => bytes "EOF"
  | .bareQuote start line column =>
    placeText start line column ++ bytes "bare \" in non-quoted-field"
  | .strayQuote start line column =>
    placeText start line column ++ bytes "extraneous or missing \" in quoted-field"

/-- A line with its end as a newline: a carriage return before the end of the line goes. -/
def endLine (line : Bytes) : Bytes :=
  match line.reverse with
  | 0x0A :: 0x0D :: rest => (0x0A :: rest).reverse
  | 0x0D :: rest => rest.reverse
  | _ => line

/-- The place that reading has come to: the rest of a line, the lines below it, and the number and
    column of the rest. -/
structure Cursor where
  rest : Bytes
  below : List Bytes
  line : Nat
  column : Nat

/-- Passes some bytes of the line. -/
def Cursor.skip (c : Cursor) (n : Nat) : Cursor :=
  { c with rest := c.rest.drop n, column := c.column + n }

/-- Goes on to the next line, after the rest of this one. -/
def Cursor.nextLine (c : Cursor) : Cursor :=
  let c := c.skip c.rest.length
  match c.below with
  | [] => c
  | [] :: below => { c with below := below }
  | line :: below => ⟨line, below, c.line + 1, 1⟩

/-- Reads the rest of a text in quotes; gives also the place after the comma that follows, if one
    does. -/
def readQuoted (start : Nat) : Nat → Cursor → Bytes → Except Fault (Bytes × Option Cursor)
  | 0, c, _ => .error (.strayQuote start c.line c.column)
  | fuel + 1, c, text =>
    let part := c.rest.takeWhile (· != byte '"')
    if part.length < c.rest.length then
      let c := c.skip (part.length + 1)
      match c.rest with
      | 0x22 :: _ => readQuoted start fuel (c.skip 1) (text ++ part ++ [byte '"'])
      | 0x2C :: _ => .ok (text ++ part, some (c.skip 1))
      | [] | [0x0A] => .ok (text ++ part, none)
      | _ => .error (.strayQuote start c.line (c.column - 1))
    else if c.rest.isEmpty then .error (.strayQuote start c.line c.column)
    else readQuoted start fuel c.nextLine (text ++ part)

/-- Reads the texts from a place on. -/
def readFields (start : Nat) : Nat → Cursor → Except Fault (List Bytes)
  | 0, _ => .ok []
  | fuel + 1, c =>
    match c.rest with
    | 0x22 :: _ =>
      match readQuoted start (fuel + 1) (c.skip 1) [] with
      | .error fault => .error fault
      | .ok (text, none) => .ok [text]
      | .ok (text, some c) => (readFields start fuel c).map (text :: ·)
    | _ =>
      let part := c.rest.takeWhile (· != byte ',')
      let last := part.length == c.rest.length
      let text := if last then part.takeWhile (· != 0x0A) else part
      let quote := text.takeWhile (· != byte '"')
      if quote.length < text.length then .error (.bareQuote start c.line (c.column + quote.length))
      else if last then .ok [text]
      else (readFields start fuel (c.skip (part.length + 1))).map (text :: ·)

/-- Reads the first line that is not empty; `n` is the number of the first line. -/
def readLines (fuel : Nat) : Nat → List Bytes → Except Fault (List Bytes)
  | _, [] => .error .ended
  | n, line :: below =>
    if line.isEmpty || line == [0x0A] then readLines fuel (n + 1) below
    else readFields n fuel ⟨line, below, n, 1⟩

/-- The texts of a list; the empty text is the empty list. -/
def read (s : Bytes) : Except Fault (List Bytes) :=
  if s.isEmpty then .ok []
  else readLines (2 * s.length + 2) 1 ((Bytes.linesKeepingEnds s).map endLine)

end CommaSeparated

end DocPages
