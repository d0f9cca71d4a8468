import DocPages.Bytes

/-!
# Matching Lines

Two texts are compared line by line: the longest run of lines that both have is found, then the same
is done before it and after it.  In a long text, lines that occur often do not count when runs are
looked for; they only make a run longer.

## Main definitions

- `Run`: a run of equal lines
- `longestRun`: the longest run within bounds
- `matchingRuns`: all runs, in order
-/

namespace DocPages

namespace Diff

/-- A run of equal lines: where it starts in each text, and how many lines it has. -/
structure Run where
  left : Nat
  right : Nat
  size : Nat
  deriving DecidableEq, Repr

/-- A part of each text: from a line up to, but without, another. -/
structure Bounds where
  leftStart : Nat
  leftEnd : Nat
  rightStart : Nat
  rightEnd : Nat
  deriving DecidableEq, Repr

/-- Two texts as lines, with the places in the second of every line of the first that counts. -/
structure Sides where
  left : Array Bytes
  right : Array Bytes
  places : Array (List Nat)

/-- The number of lines from which on frequent lines do not count. -/
def frequencyFloor : Nat := 200

/-- The numbers of the lines of a text that equal a line. -/
def placesOf (right : List (Nat × Bytes)) (line : Bytes) : List Nat :=
  right.filterMap fun (j, other) => if other == line then some j else none

/-- Prepares two texts for comparison. -/
def Sides.make (left right : List Bytes) : Sides :=
  let numbered := (List.range right.length).zip right
  let limit := right.length / 100 + 1
  let counted := fun (line : Bytes) =>
    let js := placesOf numbered line
    if frequencyFloor ≤ right.length && limit < js.length then [] else js
  ⟨left.toArray, right.toArray, (left.map counted).toArray⟩

/-- The lengths of the runs that end at a line of the first text and at each of the places `js` of the
    second, given those that end one line earlier. -/
def extendRuns (earlier : List (Nat × Nat)) : List Nat → List (Nat × Nat)
  | [] => []
  | j :: js =>
    let later := earlier.dropWhile fun e => e.1 + 1 < j
    let size := match later with
      | (i, n) :: _ => if i + 1 = j then n + 1 else 1
      | [] => 1
    (j, size) :: extendRuns later js

/-- The longer of a run and one that ends at given lines; the earlier found wins a tie. -/
def Run.orEndingAt (best : Run) (i : Nat) (e : Nat × Nat) : Run :=
  if best.size < e.2 then ⟨i + 1 - e.2, e.1 + 1 - e.2, e.2⟩ else best

/-- Looks for the longest run in `count` lines of the first text from line `i` on. -/
def searchRuns (s : Sides) (b : Bounds) (i : Nat) (earlier : List (Nat × Nat)) (best : Run) : Nat → Run
  | 0 => best
  | count + 1 =>
    let js := (s.places.getD i []).filter fun j => b.rightStart ≤ j && j < b.rightEnd
    let here := extendRuns earlier js
    searchRuns s b (i + 1) here (here.foldl (fun best e => best.orEndingAt i e) best) count

/-- Whether two lines are equal. -/
def Sides.agree (s : Sides) (i j : Nat) : Bool := s.left.getD i [] == s.right.getD j []

/-- Lengthens a run backwards by at most `count` lines. -/
def extendBack (s : Sides) (b : Bounds) (r : Run) : Nat → Run
  | 0 => r
  | count + 1 =>
    if b.leftStart < r.left && b.rightStart < r.right && s.agree (r.left - 1) (r.right - 1) then
      extendBack s b ⟨r.left - 1, r.right - 1, r.size + 1⟩ count
    else r

/-- Lengthens a run forwards by at most `count` lines. -/
def extendForth (s : Sides) (b : Bounds) (r : Run) : Nat → Run
  | 0 => r
  | count + 1 =>
    if r.left + r.size < b.leftEnd && r.right + r.size < b.rightEnd &&
        s.agree (r.left + r.size) (r.right + r.size) then
      extendForth s b { r with size := r.size + 1 } count
    else r

/-- The longest run within bounds. -/
def longestRun (s : Sides) (b : Bounds) : Run :=
  let found := searchRuns s b b.leftStart [] ⟨b.leftStart, b.rightStart, 0⟩ (b.leftEnd - b.leftStart)
  extendForth s b (extendBack s b found b.leftEnd) b.leftEnd

/-- The runs within bounds, in order; `fuel` bounds how often a part is divided. -/
def runsWithin (s : Sides) : Nat → Bounds → List Run
  | 0, _ => []
  | fuel + 1, b =>
    let r := longestRun s b
    if r.size = 0 then []
    else
      let before :=
        if b.leftStart < r.left && b.rightStart < r.right then
          runsWithin s fuel ⟨b.leftStart, r.left, b.rightStart, r.right⟩
        else []
      let after :=
        if r.left + r.size < b.leftEnd && r.right + r.size < b.rightEnd then
          runsWithin s fuel ⟨r.left + r.size, b.leftEnd, r.right + r.size, b.rightEnd⟩
        else []
      before ++ r :: after

/-- Joins runs that follow each other without a gap. -/
def joinRuns : Run → List Run → List Run
  | last, [] => if 0 < last.size then [last] else []
  | last, r :: rest =>
    if last.left + last.size = r.left ∧ last.right + last.size = r.right then
      joinRuns { last with size := last.size + r.size } rest
    else if 0 < last.size then last :: joinRuns r rest
    else joinRuns r rest

/-- All runs of two texts, and an empty one at their ends. -/
def matchingRuns (left right : List Bytes) : List Run :=
  let s := Sides.make left right
  let runs := runsWithin s (left.length + 1) ⟨0, left.length, 0, right.length⟩
  joinRuns ⟨0, 0, 0⟩ runs ++ [⟨left.length, right.length, 0⟩]

end Diff

end DocPages
