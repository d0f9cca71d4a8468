import DocPages.Markdown.Autolink
import DocPages.Markdown.Definition

/-!
# Inline Content

The content of a paragraph, heading or table cell: text with line breaks, code, emphasis, links,
images, addresses and raw HTML.

## Main definitions

- `Inline`: inline content
- `Piece`: content on its way, where runs of emphasis marks and opening brackets still wait for
  their counterparts
- `resolve`: pairs emphasis marks
-/

namespace DocPages

namespace Markdown

/-- How a piece of text ends. -/
inductive LineBreak where
  | none
  | soft
  | hard
  deriving DecidableEq, Repr

/-- Inline content. -/
inductive Inline where
  /-- Source text, with escapes and character references unread. -/
  | text (raw : Bytes) (lineBreak : LineBreak)
  | code (content : Bytes)
  | emphasis (content : List Inline)
  | strong (content : List Inline)
  | strikethrough (content : List Inline)
  | link (target : Target) (content : List Inline)
  | image (target : Target) (content : List Inline)
  | address (address : Address)
  | html (raw : Bytes)
  | checkbox (checked : Bool)
  deriving Repr

mutual

/-- Whether content is a link or holds one. -/
def Inline.hasLink : Inline → Bool
  | .link _ _ => true
  | .emphasis content => anyLink content
  | .strong content => anyLink content
  | .strikethrough content => anyLink content
  | .image _ content => anyLink content
  | _ => false

/-- Whether some content is a link or holds one. -/
def anyLink : List Inline → Bool
  | [] => false
  | i :: rest => i.hasLink || anyLink rest

end

/-- A run of emphasis marks. -/
structure Run where
  mark : UInt8
  /-- How many marks are left. -/
  length : Nat
  /-- How many marks the text has there. -/
  written : Nat
  canOpen : Bool
  canClose : Bool
  deriving Repr

/-- Content on its way. -/
inductive Piece where
  | done (content : Inline)
  | run (run : Run)
  /-- An opening bracket, for an image or not, and the text that follows it. -/
  | bracket (image : Bool) (after : Bytes)
  deriving Repr

namespace Piece

/-- A piece whose counterpart will not come. -/
def settle : Piece → Inline
  | done content => content
  | run r => .text (Bytes.fill r.length r.mark) .none
  | bracket image _ => .text (if image then bytes "![" else bytes "[") .none

/-- Whether a piece is a link or holds one. -/
def hasLink : Piece → Bool
  | done content => content.hasLink
  | _ => false

/-- Whether a piece is an opening bracket. -/
def isBracket : Piece → Bool
  | bracket _ _ => true
  | _ => false

end Piece

/-! ## Emphasis -/

/-- How many marks two runs take from each other: two when both have two, none when the rule of
    three forbids it. -/
def consumption (opener closer : Run) : Nat :=
  if (opener.canClose || closer.canOpen) && (opener.written + closer.written) % 3 == 0 &&
      closer.written % 3 != 0 then 0
  else if 2 ≤ opener.length && 2 ≤ closer.length then 2
  else 1

/-- Looks back for a run that a closing one can pair with: the pieces between them, the run, the
    pieces before it and how many marks they take.  Pieces are newest first. -/
def findOpener? (closer : Run) (between : List Piece) :
    List Piece → Option (List Piece × Run × List Piece × Nat)
  | [] => none
  | p :: before =>
    match p with
    | .run r =>
      if r.canOpen && r.mark == closer.mark && consumption r closer != 0 then
        some (between, r, before, consumption r closer)
      else findOpener? closer (p :: between) before
    | _ => findOpener? closer (p :: between) before

/-- What a pair of runs makes of the content between them. -/
def wrapContent (mark : UInt8) (taken : Nat) (content : List Inline) : Inline :=
  if mark == byte '~' then .strikethrough content
  else if taken == 2 then .strong content
  else .emphasis content

/-- Pairs a closing run with runs before it for as long as it has marks; `fuel` bounds the pairs.
    Pieces are newest first. -/
def closeRun : Nat → Run → List Piece → List Piece
  | 0, r, before => .run r :: before
  | fuel + 1, r, before =>
    match findOpener? r [] before with
    | none => .run r :: before
    | some (between, opener, older, taken) =>
      let node := Piece.done (wrapContent r.mark taken (between.map Piece.settle))
      let older :=
        if opener.length ≤ taken then older
        else .run { opener with length := opener.length - taken } :: older
      if r.length ≤ taken then node :: older
      else closeRun fuel { r with length := r.length - taken } (node :: older)

/-- Pairs the runs of some pieces, which are oldest first, and settles what is left. -/
def resolve (pieces : List Piece) : List Inline :=
  let paired := pieces.foldl (fun before p =>
    match p with
    | .run r => if r.canClose then closeRun r.length r before else p :: before
    | _ => p :: before) []
  paired.reverse.map Piece.settle

end Markdown

end DocPages
