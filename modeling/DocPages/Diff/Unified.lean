import DocPages.Diff.Match

/-!
# Unified Diffs

The difference between two texts is shown as hunks: changed lines with up to three unchanged lines
around them.  Every text counts as having a newline after its last line, so a text that ends in a
newline has one more, empty line.

## Main definitions

- `Diff.changes`: the parts of two texts, equal and changed by turns
- `Diff.hunks`: the parts that are shown, grouped
- `Diff.unified`: the diff as text
-/

namespace DocPages

namespace Diff

/-- The lines of a text, each with a newline. -/
def lines (s : Bytes) : List Bytes :=
  (Bytes.splitOn 0x0A s).map fun line => line ++ [0x0A]

/-- A part of both texts that is equal, or that differs. -/
structure Change where
  equal : Bool
  bounds : Bounds
  deriving DecidableEq, Repr

/-- The parts from given lines on. -/
def changesFrom (i j : Nat) : List Run → List Change
  | [] => []
  | r :: rest =>
    let differing := if i < r.left || j < r.right then [⟨false, ⟨i, r.left, j, r.right⟩⟩] else []
    let same :=
      if 0 < r.size then [⟨true, ⟨r.left, r.left + r.size, r.right, r.right + r.size⟩⟩] else []
    differing ++ same ++ changesFrom (r.left + r.size) (r.right + r.size) rest

/-- The parts of two texts in order. -/
def changes (left right : List Bytes) : List Change := changesFrom 0 0 (matchingRuns left right)

/-- The number of unchanged lines around a change. -/
def context : Nat := 3

/-- The last lines of an equal part that are shown. -/
def Bounds.tail (b : Bounds) : Bounds :=
  ⟨max b.leftStart (b.leftEnd - context), b.leftEnd, max b.rightStart (b.rightEnd - context),
    b.rightEnd⟩

/-- The first lines of an equal part that are shown. -/
def Bounds.front (b : Bounds) : Bounds :=
  ⟨b.leftStart, min b.leftEnd (b.leftStart + context), b.rightStart,
    min b.rightEnd (b.rightStart + context)⟩

/-- Shortens an equal part at the beginning. -/
def trimFirst : List Change → List Change
  | [] => []
  | c :: rest => (if c.equal then { c with bounds := c.bounds.tail } else c) :: rest

/-- Shortens an equal part at the end. -/
def trimLast (cs : List Change) : List Change :=
  match cs.getLast? with
  | some c => if c.equal then cs.dropLast ++ [{ c with bounds := c.bounds.front }] else cs
  | none => []

/-- Divides parts into groups at long equal parts; `group` is the current one, latest first. -/
def groupChanges (group : List Change) : List Change → List (List Change)
  | [] =>
    match group with
    | [] => []
    | [c] => if c.equal then [] else [[c]]
    | _ => [group.reverse]
  | c :: rest =>
    if c.equal && 2 * context < c.bounds.leftEnd - c.bounds.leftStart then
      ({ c with bounds := c.bounds.front } :: group).reverse ::
        groupChanges [{ c with bounds := c.bounds.tail }] rest
    else groupChanges (c :: group) rest

/-- The parts that are shown, in groups. -/
def hunks (left right : List Bytes) : List (List Change) :=
  groupChanges [] (trimLast (trimFirst (changes left right)))

/-- A range of lines: the first one and their number; an empty range is named by the line before. -/
def range (start stop : Nat) : Bytes :=
  let size := stop - start
  if size = 1 then Bytes.decimalNat (start + 1)
  else
    Bytes.decimalNat (if size = 0 then start else start + 1) ++ bytes "," ++ Bytes.decimalNat size

/-- Lines from one number up to, but without, another, each after a mark. -/
def marked (mark : String) (ls : List Bytes) (start stop : Nat) : Bytes :=
  ((ls.take stop).drop start).flatMap fun line => bytes mark ++ line

/-- A hunk as text. -/
def hunkText (left right : List Bytes) (hunk : List Change) : Bytes :=
  let head := hunk.head?.map Change.bounds
  let last := hunk.getLast?.map Change.bounds
  match head, last with
  | some a, some z =>
    bytes "@@ -" ++ range a.leftStart z.leftEnd ++ bytes " +" ++ range a.rightStart z.rightEnd ++
      bytes " @@\n" ++
      hunk.flatMap fun c =>
        let b := c.bounds
        if c.equal then marked " " left b.leftStart b.leftEnd
        else marked "-" left b.leftStart b.leftEnd ++ marked "+" right b.rightStart b.rightEnd
  | _, _ => []

/-- The diff of two texts, headed by their names; empty if they have the same lines. -/
def unified (leftName rightName left right : Bytes) : Bytes :=
  let ls := lines left
  let rs := lines right
  match hunks ls rs with
  | [] => []
  | found =>
    bytes "--- " ++ leftName ++ bytes "\n+++ " ++ rightName ++ bytes "\n" ++
      found.flatMap (hunkText ls rs)

end Diff

end DocPages
