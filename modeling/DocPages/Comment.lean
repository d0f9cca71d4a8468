import DocPages.Text.Blank

/-!
# Documentation Comments

A script is read line by line.  A documentation block opens at a line whose trimmed text starts
with `/*?` and closes after the first line, the same one included, whose trimmed text ends with
`**/`.  Only lines inside blocks count, and they count without the decoration that draws the
comment.  A banner comment elsewhere in the script names the product.

## Main definitions

- `stripDecoration`: a trimmed line without stars and block markers
- `BlockLine`, `blockLines`: the numbered lines inside the blocks of a script
- `productName?`: the name in the banner
-/

namespace DocPages

/-- A named script. -/
structure Script where
  name : Bytes
  text : Bytes
  deriving DecidableEq, Repr, Inhabited

/-- The marker that opens a block. -/
def blockBegin : Bytes := bytes "/*?"

/-- The marker that closes a block. -/
def blockEnd : Bytes := bytes "**/"

/-- Removes one leading star and up to two spaces after it. -/
def stripStar (line : Bytes) : Bytes :=
  match Bytes.dropPrefix? (bytes "*") line with
  | some rest => Bytes.trimPrefix (bytes " ") (Bytes.trimPrefix (bytes " ") rest)
  | none => line

/-- Removes a final slash that follows a star, and the run of stars before it. -/
def stripEnd (line : Bytes) : Bytes :=
  match Bytes.dropSuffix? (bytes "*/") line with
  | some rest => Bytes.dropEndWhile (· == byte '*') rest
  | none => line

/-- A trimmed line without its decoration: the star and spaces that start it, a marker that opens
    the block, and the stars and slash that end the comment. -/
def stripDecoration (line : Bytes) : Bytes :=
  stripEnd (Bytes.trimPrefix blockBegin (stripStar line))

/-- One line inside a block. -/
structure BlockLine where
  /-- The number of the line in its script, from one. -/
  number : Nat
  /-- The line, trimmed and without decoration. -/
  text : Bytes
  /-- Whether the block ends after this line. -/
  closing : Bool
  deriving DecidableEq, Repr

/-- The lines inside blocks among `lines`, the first of which has the given number. -/
def blockLinesFrom (inside : Bool) (number : Nat) : List Bytes → List BlockLine
  | [] => []
  | raw :: rest =>
    let line := trim raw
    let inside := inside || blockBegin.isPrefixOf line
    if inside then
      let closing := blockEnd.isSuffixOf line
      ⟨number, stripDecoration line, closing⟩ :: blockLinesFrom (!closing) (number + 1) rest
    else blockLinesFrom false (number + 1) rest

/-- The lines inside the blocks of a script's text, which starts outside any block. -/
def blockLines (text : Bytes) : List BlockLine :=
  blockLinesFrom false 1 (Bytes.splitOn 0x0A text)

/-! ## The product banner -/

/-- The name in a banner that starts here: a line with only the marker, then a line that gives the
    name after a star.  Either line may end with a carriage return, which a name of one byte keeps. -/
def bannerName? (s : Bytes) : Option Bytes := do
  let rest ← Bytes.dropPrefix? (bytes "/*!") s
  let rest ← Bytes.dropPrefix? (bytes "\n * ") (Bytes.trimPrefix (bytes "\r") rest)
  let (name, _) ← Bytes.cutFirst? (bytes "\n") rest
  match name with
  | [] => none
  | [b] => some [b]
  | _ => some (Bytes.trimSuffix (bytes "\r") name)

/-- The product that the first banner of a script names. -/
def productName? : Bytes → Option Bytes
  | [] => none
  | b :: s => (bannerName? (b :: s)).or (productName? s)

end DocPages
