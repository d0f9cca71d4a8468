import DocPages.Markdown.Characters
import DocPages.Text.CaseFold

/-!
# Link Destinations, Titles and Reference Definitions

A paragraph may begin with definitions such as `[label]: /destination "title"`, which links
elsewhere in the text refer to by label.

## Main definitions

- `linkDestination?`, `linkTitle?`: the parts that inline links and definitions share
- `Target`, `normalizeLabel`: where a link goes, and when two labels are the same
- `definition?`, `definitions`: definitions at the beginning of a paragraph
-/

namespace DocPages

namespace Markdown

/-- Where a link goes, and its title if it has one. -/
structure Target where
  destination : Bytes
  title : Option Bytes
  deriving Repr

/-- Runs of spaces as one space each. -/
def collapseSpaces : Bytes → Bytes
  | [] => []
  | b :: rest =>
    if isSpace b then
      match rest with
      | [] => [0x20]
      | c :: _ => if isSpace c then collapseSpaces rest else 0x20 :: collapseSpaces rest
    else b :: collapseSpaces rest

/-- The form of a label that is the same for all its spellings. -/
def normalizeLabel (label : Bytes) : Bytes := collapseSpaces (foldCase (trimSpaces label))

/-- Puts a byte in front of what was read. -/
def withByte (b : UInt8) (r : Bytes × Bytes) : Bytes × Bytes := (b :: r.1, r.2)

/-- Reads up to a closing byte that no backslash escapes: what stands before it and what follows.
    An opening byte on the way is refused.  `escaped` says that a backslash stands just before. -/
def untilCloser? (opener closer : UInt8) (escaped : Bool) : Bytes → Option (Bytes × Bytes)
  | [] => none
  | b :: rest =>
    if escaped && isMark b then (untilCloser? opener closer false rest).map (withByte b)
    else if b = 0x5C then (untilCloser? opener closer true rest).map (withByte b)
    else if b = closer then some ([], rest)
    else if b = opener then none
    else (untilCloser? opener closer false rest).map (withByte b)

/-- Reads a destination in angle brackets after the opening one; it ends on the same line. -/
def angleDestination? (escaped : Bool) : Bytes → Option (Bytes × Bytes)
  | [] => none
  | b :: rest =>
    if escaped && isMark b then (angleDestination? false rest).map (withByte b)
    else if b = 0x5C then (angleDestination? true rest).map (withByte b)
    else if b = byte '>' then some ([], rest)
    else if b = 0x0A then none
    else (angleDestination? false rest).map (withByte b)

/-- Reads a destination without brackets: up to a space or a parenthesis that closes more than were
    opened. -/
def bareDestination (depth : Nat) (escaped : Bool) : Bytes → Bytes × Bytes
  | [] => ([], [])
  | b :: rest =>
    if escaped && isMark b then withByte b (bareDestination depth false rest)
    else if b = 0x5C then withByte b (bareDestination depth true rest)
    else if isSpace b then ([], b :: rest)
    else if b = byte '(' then withByte b (bareDestination (depth + 1) false rest)
    else if b = byte ')' then
      if depth = 0 then ([], b :: rest) else withByte b (bareDestination (depth - 1) false rest)
    else withByte b (bareDestination depth false rest)

/-- Reads a destination after any spaces. -/
def linkDestination? (s : Bytes) : Option (Bytes × Bytes) :=
  let s := trimStart s
  match s with
  | 0x3C :: rest => angleDestination? false rest
  | _ =>
    let (inside, after) := bareDestination 0 false s
    if inside.isEmpty then none else some (inside, after)

/-- The byte that ends a title which a byte begins. -/
def titleCloser? (opener : UInt8) : Option UInt8 :=
  if opener = byte '"' || opener = byte '\'' then some opener
  else if opener = byte '(' then some (byte ')')
  else none

/-- Reads a title after any spaces. -/
def linkTitle? (s : Bytes) : Option (Bytes × Bytes) :=
  match trimStart s with
  | [] => none
  | opener :: rest => (titleCloser? opener).bind fun closer => untilCloser? opener closer false rest

/-- A text after the end of its first line. -/
def afterLine (s : Bytes) : Bytes := (s.dropWhile (· != 0x0A)).drop 1

/-- Whether only spaces stand before the end of the first line. -/
def lineEndsHere (s : Bytes) : Bool := isBlankLine (s.takeWhile (· != 0x0A))

/-- Reads one definition at the beginning of a text: its label, its target, and the lines after it.
    A title that is not alone on the rest of its line does not belong to the definition. -/
def definition? (s : Bytes) : Option (Bytes × Target × Bytes) := do
  let rest ← Bytes.dropPrefix? (bytes "[") (trimStart s)
  let (label, rest) ← untilCloser? (byte '[') (byte ']') false rest
  if isBlankLine label then none
  let rest ← Bytes.dropPrefix? (bytes ":") rest
  let (destination, rest) ← linkDestination? rest
  let bare := if lineEndsHere rest then some (label, ⟨destination, none⟩, afterLine rest) else none
  let spaced := (rest.head?.map isSpace).getD false
  match linkTitle? rest with
  | some (title, after) =>
    if !spaced then none
    else if lineEndsHere after then some (label, ⟨destination, some title⟩, afterLine after)
    else bare
  | none => bare

/-- Targets by normalised label. -/
abbrev Targets := List (Bytes × Target)

/-- Adds a target unless its label is taken. -/
def Targets.add (targets : Targets) (label : Bytes) (target : Target) : Targets :=
  let label := normalizeLabel label
  if (targets.lookup label).isSome then targets else targets ++ [(label, target)]

/-- Takes the definitions off the beginning of a paragraph; `fuel` bounds their number. -/
def definitions : Nat → Targets → Bytes → Targets × Bytes
  | 0, targets, s => (targets, s)
  | fuel + 1, targets, s =>
    match definition? s with
    | some (label, target, rest) => definitions fuel (targets.add label target) rest
    | none => (targets, s)

end Markdown

end DocPages
