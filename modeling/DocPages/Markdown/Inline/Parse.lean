import DocPages.Markdown.Inline
import DocPages.Markdown.Tag

/-!
# Reading Inline Content

The text of a block is read from left to right, line by line.  At a byte that may begin a construct
the constructs are tried in turn; a byte that begins none is text.  Brackets are matched as they
close, emphasis marks once the whole text, or the text of a link, is there.

## Main definitions

- `InlineContext`: what the block around the text contributes
- `parseInline`: the inline content of a text
-/

namespace DocPages

namespace Markdown

/-- What the surroundings of a text contribute to reading it. -/
structure InlineContext where
  /-- The targets that links may refer to. -/
  targets : Targets
  /-- Whether the text opens a list item, where a check box may stand. -/
  opensItem : Bool
  /-- Whether the text is a table cell, in whose code a bar is written with a backslash. -/
  inCell : Bool

/-- What trying the constructs at a place gives: pieces, newest first, with the text that is left
    after a construct, or without one. -/
inductive Attempt where
  | hit (pieces : List Piece) (rest : Bytes)
  | miss (pieces : List Piece)

/-! ## §1 Line breaks -/

/-- How the first line of a text ends: the bytes before the break, the bytes of the break, the kind
    of break, and whether spaces in front of it stay. -/
def lineEnd (s : Bytes) : Nat × Nat × LineBreak × Bool :=
  let line := s.takeWhile (· != 0x0A)
  let n := line.length
  if n == s.length then (n, 0, .none, false)
  else
    let back := line.reverse
    match back with
    | 0x5C :: rest => if rest.head? == some 0x5C then (n, 1, .soft, false) else (n - 1, 2, .hard, true)
    | 0x0D :: 0x5C :: rest =>
      if rest.head? == some 0x5C then (n, 1, .soft, false) else (n - 2, 3, .hard, true)
    | 0x20 :: 0x20 :: _ => (n - 2, 3, .hard, false)
    | 0x0D :: 0x20 :: 0x20 :: _ => (n - 3, 4, .hard, false)
    | _ => (n, 1, .soft, false)

/-! ## §2 Code -/

/-- Reads up to a run of exactly `n` backticks.  `run` is the number of backticks just before, and
    `read` what was read so far, newest first. -/
def untilTicks? (n run : Nat) (read : Bytes) : Bytes → Option (Bytes × Bytes)
  | [] => if run == n then some ((read.drop n).reverse, []) else none
  | b :: rest =>
    if b = 0x60 then untilTicks? n (run + 1) (b :: read) rest
    else if run == n then some ((read.drop n).reverse, b :: rest)
    else untilTicks? n 0 (b :: read) rest

/-- A space or newline. -/
def isCodeSpace (b : UInt8) : Bool := b == 0x20 || b == 0x0A

/-- The content of a code span: one space at either end is dropped when both are there and there is
    more than spaces. -/
def trimCode (s : Bytes) : Bytes :=
  if isBlankLine s then s
  else if (s.head?.map isCodeSpace).getD false && (s.getLast?.map isCodeSpace).getD false then
    (s.drop 1).dropLast
  else s

/-- Drops the backslash before each bar. -/
def unescapeBars : Bytes → Bytes
  | [] => []
  | b :: rest =>
    if b = 0x5C && rest.head? == some (byte '|') then unescapeBars rest else b :: unescapeBars rest

/-- Reads a code span, or the backticks alone when no run of the same length follows. -/
def codeSpan (inCell : Bool) (s : Bytes) : Inline × Bytes :=
  let n := (s.takeWhile (· == 0x60)).length
  match untilTicks? n 0 [] (s.drop n) with
  | some (content, rest) =>
    let content := if inCell then unescapeBars content else content
    (.code (trimCode content), rest)
  | none => (.text (s.take n) .none, s.drop n)

/-! ## §3 Emphasis marks -/

/-- The code of the last rune of a text that is given backwards; a newline at its beginning. -/
def lastCode (seen : Bytes) : Nat :=
  let tails := (seen.takeWhile Utf8.isTail).take 3
  match seen.drop tails.length with
  | [] => if tails.isEmpty then 0x0A else Utf8.replacement
  | lead :: _ => ((firstRune? (lead :: tails.reverse)).map fun (r, _) => r.code).getD 0x0A

/-- Reads a run of emphasis marks: whether it can open or close follows from the characters at both
    sides. -/
def readRun (seen s : Bytes) (mark : UInt8) : Run :=
  let n := (s.takeWhile (· == mark)).length
  let before := lastCode seen
  let after := ((firstRune? (s.drop n)).map fun (r, _) => r.code).getD 0x20
  let beforeSpace := isSpaceRune before
  let afterSpace := isSpaceRune after
  let beforeMark := isPunctuation before
  let afterMark := isPunctuation after
  let left := !afterSpace && (!afterMark || beforeSpace || beforeMark)
  let right := !beforeSpace && (!beforeMark || afterSpace || afterMark)
  if mark == byte '_' then
    ⟨mark, n, n, left && (!right || beforeMark), right && (!left || afterMark)⟩
  else ⟨mark, n, n, left, right⟩

/-! ## §4 Brackets -/

/-- Splits pieces, newest first, at the nearest opening bracket: the pieces after it, whether it is
    for an image, the text after it, and the pieces before it. -/
def splitBracket? (after : List Piece) : List Piece → Option (List Piece × Bool × Bytes × List Piece)
  | [] => none
  | p :: before =>
    match p with
    | .bracket image text => some (after, image, text, before)
    | _ => splitBracket? (p :: after) before

/-- Reads the destination and title of a link after its opening parenthesis. -/
def inlineTarget? (s : Bytes) : Option (Target × Bytes) :=
  let s := trimStart s
  match Bytes.dropPrefix? (bytes ")") s with
  | some rest => some (⟨[], none⟩, rest)
  | none => do
    let (destination, rest) ← linkDestination? s
    let rest := trimStart rest
    match Bytes.dropPrefix? (bytes ")") rest with
    | some rest => return (⟨destination, none⟩, rest)
    | none =>
      let (title, rest) ← linkTitle? rest
      let rest ← Bytes.dropPrefix? (bytes ")") (trimStart rest)
      return (⟨destination, some title⟩, rest)

/-- The longest text that is looked up as a label. -/
def labelLimit : Nat := 999

/-- The target of a label. -/
def lookupLabel? (targets : Targets) (label : Bytes) : Option Target :=
  if labelLimit < label.length then none else targets.lookup (normalizeLabel label)

/-- Finds the target of a link whose text is closed: after it stand a parenthesised target, a label
    in brackets, or nothing of the kind, when the text itself is the label. -/
def linkTarget? (targets : Targets) (label rest : Bytes) : Option (Target × Bytes) :=
  let shortcut := (lookupLabel? targets label).map fun t => (t, rest)
  match rest with
  | 0x28 :: more => (inlineTarget? more).or shortcut
  | 0x5B :: more =>
    match untilCloser? (byte '[') (byte ']') false more with
    | some (other, after) =>
      (lookupLabel? targets (if isBlankLine other then label else other)).map fun t => (t, after)
    | none => shortcut
  | _ => shortcut

/-- Closes the nearest opening bracket. -/
def closeBracket (targets : Targets) (pieces : List Piece) (s : Bytes) : Attempt :=
  match splitBracket? [] pieces with
  | none => .miss pieces
  | some (inside, image, after, before) =>
    let refused := Attempt.miss (inside.reverse ++ .done (Piece.bracket image after).settle :: before)
    if !image && inside.any Piece.hasLink then refused
    else
      let label := after.take (after.length - s.length)
      match linkTarget? targets label (s.drop 1) with
      | none => refused
      | some (target, rest) =>
        let content := resolve inside
        .hit (.done (if image then .image target content else .link target content) :: before) rest

/-! ## §5 Check boxes -/

/-- Reads a check box and the spaces after it. -/
def checkbox? (s : Bytes) : Option (Inline × Bytes) :=
  match s with
  | 0x5B :: c :: 0x5D :: rest =>
    if c = byte 'x' || c = byte 'X' || c = 0x20 || c = 0x09 || c = 0x0A || c = 0x0C || c = 0x0D then
      some (.checkbox (c = byte 'x' || c = byte 'X'),
        rest.dropWhile fun b => isSpace b && b != 0x0B)
    else none
  | _ => none

/-! ## §6 One place -/

/-- Reads a bare address, after one byte that may stand in front of it.  Inside brackets there is
    none. -/
def bareLink (pieces : List Piece) (s : Bytes) : Attempt :=
  if pieces.any Piece.isBracket then .miss pieces
  else
    let (lead, rest) :=
      match s with
      | b :: more =>
        if b = 0x20 || b = byte '*' || b = byte '_' || b = byte '~' || b = byte '(' then ([b], more)
        else ([], s)
      | [] => ([], s)
    match bareAddress? rest with
    | none => .miss pieces
    | some (address, rest) =>
      let pieces := if lead.isEmpty then pieces else .done (.text lead .none) :: pieces
      .hit (.done (.address address) :: pieces) rest

/-- Tries the constructs that may begin with the first byte of `s`.  `seen` is the text before,
    backwards; `starts` says whether nothing of the text has been read. -/
def tryConstruct (ctx : InlineContext) (seen s : Bytes) (starts : Bool) (pieces : List Piece) :
    Attempt :=
  match s with
  | [] => .miss pieces
  | b :: rest =>
    if b = 0x60 then
      let (node, rest) := codeSpan ctx.inCell s
      .hit (.done node :: pieces) rest
    else if b = byte '!' then
      match rest with
      | 0x5B :: after => .hit (.bracket true after :: pieces) after
      | _ => .miss pieces
    else if b = byte '[' then
      match (if ctx.opensItem && starts then checkbox? s else none) with
      | some (node, rest) => .hit (.done node :: pieces) rest
      | none => .hit (.bracket false rest :: pieces) rest
    else if b = byte ']' then closeBracket ctx.targets pieces s
    else if b = byte '<' then
      match angleAddress? s with
      | some (address, rest) => .hit (.done (.address address) :: pieces) rest
      | none =>
        match rawHtml? s with
        | some after => .hit (.done (.html (s.take (s.length - after.length))) :: pieces) after
        | none => .miss pieces
    else if b = byte '*' || b = byte '_' then
      let r := readRun seen s b
      .hit (.run r :: pieces) (s.drop r.written)
    else if b = byte '~' then
      let r := readRun seen s b
      if 2 < r.written || lastCode seen == 0x7E then bareLink pieces s
      else .hit (.run r :: pieces) (s.drop r.written)
    else if b = byte '(' || !isMark b then bareLink pieces s
    else .miss pieces

/-- The marks that may begin a construct. -/
def isOpener (b : UInt8) : Bool := (bytes "`![]<*_~(").contains b

/-! ## §7 The whole text -/

/-- The state of reading a text. -/
structure Reading where
  /-- What was read, backwards. -/
  seen : Bytes
  rest : Bytes
  /-- How many bytes are left before the break of this line. -/
  left : Nat
  /-- How many bytes the break takes. -/
  breakLength : Nat
  lineBreak : LineBreak
  keepSpaces : Bool
  /-- Text not yet turned into a piece, backwards. -/
  pending : Bytes
  /-- Whether nothing was read since the line or the last construct began. -/
  first : Bool
  escaped : Bool
  pieces : List Piece

namespace Reading

/-- Begins a line, or what is left of it. -/
def begin (seen rest : Bytes) (escaped : Bool) (pieces : List Piece) : Reading :=
  let (left, breakLength, lineBreak, keepSpaces) := lineEnd rest
  ⟨seen, rest, left, breakLength, lineBreak, keepSpaces, [], true, escaped, pieces⟩

/-- The pieces with the pending text among them. -/
def flush (r : Reading) : List Piece :=
  if r.pending.isEmpty then r.pieces else .done (.text r.pending.reverse .none) :: r.pieces

/-- Ends a line. -/
def endLine (r : Reading) : List Piece :=
  let text := if r.keepSpaces then r.pending.reverse else trimEnd r.pending.reverse
  if text.isEmpty && r.lineBreak == .none then r.pieces
  else .done (.text text r.lineBreak) :: r.pieces

/-- Takes one byte as text. -/
def plain (r : Reading) (b : UInt8) (rest : Bytes) : Reading :=
  { r with
    seen := b :: r.seen, rest, left := r.left - 1, pending := b :: r.pending, first := false,
    escaped := !r.escaped && b == 0x5C }

/-- Reads on; every step reads a byte or ends a line, and `fuel` bounds the steps. -/
def run (ctx : InlineContext) : Nat → Reading → List Piece
  | 0, r => r.endLine
  | fuel + 1, r =>
    if r.left = 0 then
      let rest := r.rest.drop r.breakLength
      let pieces := r.endLine
      if rest.isEmpty then pieces
      else run ctx fuel (begin ((r.rest.take r.breakLength).reverse ++ r.seen) rest r.escaped pieces)
    else
      match r.rest with
      | [] => r.endLine
      | b :: rest =>
        if isSpace b || (if isMark b then isOpener b && (!r.escaped || r.first) else r.first) then
          let pieces := r.flush
          match tryConstruct ctx r.seen r.rest (pieces.isEmpty) pieces with
          | .hit pieces after =>
            let consumed := r.rest.take (r.rest.length - after.length)
            run ctx fuel (begin (consumed.reverse ++ r.seen) after r.escaped pieces)
          | .miss pieces =>
            run ctx fuel ({ r with pieces, pending := [] }.plain b rest)
        else run ctx fuel (r.plain b rest)

end Reading

/-- The inline content of a text. -/
def parseInline (ctx : InlineContext) (s : Bytes) : List Inline :=
  if s.isEmpty then []
  else resolve (Reading.run ctx (2 * s.length + 2) (.begin [] s false [])).reverse

end Markdown

end DocPages
