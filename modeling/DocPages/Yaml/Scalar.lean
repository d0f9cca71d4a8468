import DocPages.Yaml.Source

/-!
# YAML Scalar Texts

A scalar is written plain, in quotes, or as an indented block.  Lines of a plain or quoted scalar are
folded: one break becomes a space, and each further break a newline.  A block keeps its breaks
(literal) or folds them (folded), and its header says what becomes of the breaks at the end.

Every reader here starts at the first character of the scalar and stops after its last.

## Main definitions

- `Yaml.readPlain`: a scalar without quotes
- `Yaml.readQuoted`: a scalar in single or double quotes
- `Yaml.readBlock`: a literal or folded block
-/

namespace DocPages

namespace Yaml

/-! ## §1 Folding -/

/-- The space between two words of a scalar: blanks on one line, or line breaks. -/
structure Gap where
  /-- The blanks before the first break. -/
  blanks : Bytes
  /-- The first break. -/
  first : Bytes
  /-- The breaks after the first. -/
  more : Bytes
  /-- Whether a break has been passed. -/
  broken : Bool

/-- No space at all. -/
def Gap.none : Gap := ⟨[], [], [], false⟩

/-- What a gap adds to the text: the blanks as they are, a space for one break, and for several
    breaks all but the first. -/
def Gap.text (g : Gap) : Bytes :=
  if g.broken then
    if g.first.head? == some 0x0A then (if g.more.isEmpty then [0x20] else g.more)
    else g.first ++ g.more
  else g.blanks

/-- Passes blanks and line breaks; blanks after a break count for nothing, and where `refuse` holds
    they may not stand. -/
def readGap (refuse : Source → Bool) : Nat → Source → Gap → Except Source (Gap × Source)
  | 0, s, g => .ok (g, s)
  | fuel + 1, s, g =>
    if isBlank s.next then
      if g.broken && refuse s then .error s
      else readGap refuse fuel s.skip (if g.broken then g else { g with blanks := g.blanks ++ s.raw })
    else if isBreak s.next then
      let g := if g.broken then { g with more := g.more ++ s.lineText }
        else { g with blanks := [], first := s.lineText, broken := true }
      readGap refuse fuel s.skipLine g
    else .ok (g, s)

/-! ## §2 Plain scalars -/

/-- A character that ends a plain scalar inside brackets. -/
def isFlowIndicator (c : Nat) : Bool :=
  c == code ',' || c == code '?' || c == code '[' || c == code ']' || c == 0x7B || c == 0x7D

/-- Whether a plain scalar ends before the next character. -/
def plainStops (inFlow : Bool) (s : Source) : Bool :=
  isSpaceOrEnd s.next || (s.next == code ':' && isSpaceOrEnd (s.ahead 1))
    || (inFlow && isFlowIndicator s.next)

/-- Passes the characters of one word of a plain scalar. -/
def readWord (inFlow : Bool) : Nat → Source → Bytes → Bytes × Source
  | 0, s, word => (word, s)
  | fuel + 1, s, word =>
    if plainStops inFlow s then (word, s) else readWord inFlow fuel s.skip (word ++ s.raw)

/-- Reads the words of a plain scalar after `text`; tells also whether a line break follows it.  Lines
    after the first stand at column `indent` or further right, outside brackets. -/
def readWords (inFlow : Bool) (indent : Int) (start : Mark) :
    Nat → Source → Bytes → Gap → Except Fault (Bytes × Bool × Source)
  | 0, s, text, g => .ok (text, g.broken, s)
  | fuel + 1, s, text, g =>
    if s.atDocumentMark || s.next == code '#' then .ok (text, g.broken, s)
    else
      let (word, s) := readWord inFlow s.rest.length s []
      let (text, g) := if word.isEmpty then (text, g) else (text ++ g.text ++ word, Gap.none)
      if isBlank s.next || isBreak s.next then
        match readGap (fun t => t.next == 0x09 && decide ((t.mark.column : Int) < indent))
            s.rest.length s g with
        | .error tab => .error (.inText .tabInPlain start tab.mark)
        | .ok (g, s) =>
          if !inFlow && decide ((s.mark.column : Int) < indent) then .ok (text, g.broken, s)
          else readWords inFlow indent start fuel s text g
      else .ok (text, g.broken, s)

/-- Reads a plain scalar: its text, whether a line break follows, and the rest. -/
def readPlain (inFlow : Bool) (indent : Int) (s : Source) : Except Fault (Bytes × Bool × Source) :=
  readWords inFlow indent s.mark (s.rest.length + 1) s [] Gap.none

/-! ## §3 Quoted scalars -/

/-- What a character after a backslash stands for. -/
def escapeText? (c : Nat) : Option Bytes :=
  [('0', [0x00]), ('a', [0x07]), ('b', [0x08]), ('t', [0x09]), ('\t', [0x09]), ('n', [0x0A]),
    ('v', [0x0B]), ('f', [0x0C]), ('r', [0x0D]), ('e', [0x1B]), (' ', [0x20]), ('"', [0x22]),
    ('\'', [0x27]), ('\\', [0x5C]), ('N', [0xC2, 0x85]), ('_', [0xC2, 0xA0]),
    ('L', [0xE2, 0x80, 0xA8]), ('P', [0xE2, 0x80, 0xA9])].findSome? fun (letter, text) =>
      if code letter == c then some (text : Bytes) else none

/-- The number of hexadecimal digits that follow a letter after a backslash. -/
def escapeLength? (c : Nat) : Option Nat :=
  if c == code 'x' then some 2 else if c == code 'u' then some 4
  else if c == code 'U' then some 8 else none

/-- The value of hexadecimal digits. -/
def hexadecimal? (digits : List Rune) : Option Nat :=
  digits.foldl (fun value r => value.bind fun v =>
    if r.code < 0x80 then (Bytes.hexValue? r.code.toUInt8).map fun d => v * 16 + d else none) (some 0)

/-- Reads an escape, at its backslash. -/
def readEscape (start : Mark) (s : Source) : Except Fault (Bytes × Source) :=
  match escapeText? (s.ahead 1) with
  | some text => .ok (text, s.skip.skip)
  | none =>
    match escapeLength? (s.ahead 1) with
    | none => .error (.inText .unknownEscape start s.mark)
    | some n =>
      let s := s.skip.skip
      let digits := s.rest.take n
      match (if digits.length == n then hexadecimal? digits else none) with
      | none => .error (.inText .shortEscape start s.mark)
      | some value =>
        if (0xD800 ≤ value && value < 0xE000) || 0x110000 ≤ value then
          .error (.inText .badEscapedCharacter start s.mark)
        else .ok (encodeRune value, s.skipMany n)

/-- Passes the characters of one word of a quoted scalar, and tells whether an escaped line break ends
    it. -/
def readQuotedWord (single : Bool) (start : Mark) :
    Nat → Source → Bytes → Except Fault (Bytes × Bool × Source)
  | 0, s, word => .ok (word, false, s)
  | fuel + 1, s, word =>
    if isSpaceOrEnd s.next then .ok (word, false, s)
    else if single then
      if s.next == code '\'' then
        if s.ahead 1 == code '\'' then readQuotedWord single start fuel s.skip.skip (word ++ [0x27])
        else .ok (word, false, s)
      else readQuotedWord single start fuel s.skip (word ++ s.raw)
    else if s.next == code '"' then .ok (word, false, s)
    else if s.next == code '\\' then
      if isBreak (s.ahead 1) then .ok (word, true, s.skip.skipLine)
      else
        match readEscape start s with
        | .error fault => .error fault
        | .ok (text, s) => readQuotedWord single start fuel s (word ++ text)
    else readQuotedWord single start fuel s.skip (word ++ s.raw)

/-- Reads the words of a quoted scalar after `text`, to its closing quote. -/
def readQuotedWords (single : Bool) (start : Mark) :
    Nat → Source → Bytes → Except Fault (Bytes × Source)
  | 0, s, _ => .error (.inText .endInQuotes start s.mark)
  | fuel + 1, s, text =>
    if s.atDocumentMark then .error (.inText .documentMarkInQuotes start s.mark)
    else if s.atEnd then .error (.inText .endInQuotes start s.mark)
    else
      match readQuotedWord single start s.rest.length s [] with
      | .error fault => .error fault
      | .ok (word, escaped, s) =>
        let text := text ++ word
        if s.next == (if single then code '\'' else code '"') then .ok (text, s.skip)
        else
          match readGap (fun _ => false) s.rest.length s { Gap.none with broken := escaped } with
          | .error s => .ok (text, s)
          | .ok (g, s) => readQuotedWords single start fuel s (text ++ g.text)

/-- Reads a scalar in quotes, at its opening quote. -/
def readQuoted (single : Bool) (s : Source) : Except Fault (Bytes × Source) :=
  readQuotedWords single s.mark (s.rest.length + 1) s.skip []

/-! ## §4 Block scalars -/

/-- What becomes of the line breaks at the end of a block. -/
inductive Chomping where
  | strip
  | clip
  | keep
  deriving DecidableEq

/-- The chomping that a sign asks for. -/
def chomping? (c : Nat) : Option Chomping :=
  if c == code '+' then some .keep else if c == code '-' then some .strip else none

/-- A decimal digit. -/
def isDigit (c : Nat) : Bool := 0x30 ≤ c && c ≤ 0x39

/-- Reads the digit of a block header, if one stands there. -/
def readIndentation (start : Mark) (s : Source) : Except Fault (Nat × Source) :=
  if !isDigit s.next then .ok (0, s)
  else if s.next == code '0' then .error (.inText .zeroIndentation start s.mark)
  else .ok (s.next - 0x30, s.skip)

/-- Reads the header of a block after its first character: the chomping and the indentation, in either
    order. -/
def readHeader (start : Mark) (s : Source) : Except Fault (Chomping × Nat × Source) :=
  match chomping? s.next with
  | some c => (readIndentation start s.skip).map fun (n, s) => (c, n, s)
  | none =>
    match readIndentation start s with
    | .error fault => .error fault
    | .ok (0, s) => .ok (.clip, 0, s)
    | .ok (n, s) =>
      match chomping? s.next with
      | some c => .ok (c, n, s.skip)
      | none => .ok (.clip, n, s)

/-- Passes the blank rest of a line, with a comment. -/
def skipToLineEnd (s : Source) : Source :=
  let s := s.dropWhile isBlank
  if s.next == code '#' then s.dropWhile fun c => !isBreakOrEnd c else s

/-- Passes empty lines and the indentation of the next line that is not empty.  With `indent` zero the
    indentation is not yet known, and the widest column is found. -/
def readIndent (start : Mark) (indent : Nat) :
    Nat → Source → Nat → Bytes → Except Fault (Nat × Bytes × Source)
  | 0, s, widest, breaks => .ok (widest, breaks, s)
  | fuel + 1, s, widest, breaks =>
    let room := if indent == 0 then s.rest.length else indent - s.mark.column
    let s := s.skipMany ((s.rest.take room).takeWhile fun r => r.code == 0x20).length
    let widest := max widest s.mark.column
    if s.next == 0x09 && (indent == 0 || s.mark.column < indent) then
      .error (.inText .tabInBlock start s.mark)
    else if isBreak s.next then
      readIndent start indent fuel s.skipLine widest (breaks ++ s.lineText)
    else .ok (widest, breaks, s)

/-- Reads the lines of a block at column `indent`: the text, and the breaks at its end apart. -/
def readLines (literal : Bool) (start : Mark) (indent : Nat) :
    Nat → Source → Bytes → Bytes → Bytes → Bool → Except Fault (Bytes × Bytes × Bytes × Source)
  | 0, s, text, lastBreak, emptyLines, _ => .ok (text, lastBreak, emptyLines, s)
  | fuel + 1, s, text, lastBreak, emptyLines, indented =>
    if s.mark.column != indent || s.atEnd then .ok (text, lastBreak, emptyLines, s)
    else
      let blank := isBlank s.next
      let fold := !literal && !indented && !blank && lastBreak.head? == some 0x0A
      let joint := if fold then (if emptyLines.isEmpty then [0x20] else []) else lastBreak
      let (line, s) := s.takeWhile fun c => !isBreakOrEnd c
      let text := text ++ joint ++ emptyLines ++ line
      let lastBreak := s.lineText
      let s := if isBreak s.next then s.skipLine else s
      match readIndent start indent (s.rest.length + 1) s 0 [] with
      | .error fault => .error fault
      | .ok (_, emptyLines, s) => readLines literal start indent fuel s text lastBreak emptyLines blank

/-- Reads a block scalar, at the character that begins its header; `outer` is the indentation of what
    it stands in. -/
def readBlock (literal : Bool) (outer : Int) (s : Source) : Except Fault (Bytes × Source) := do
  let start := s.mark
  let (chomping, increment, s) ← readHeader start s.skip
  let s := skipToLineEnd s
  if !isBreakOrEnd s.next then .error (.inText .textAfterHeader start s.mark)
  let s := if isBreak s.next then s.skipLine else s
  let stated := if increment == 0 then 0 else outer.toNat + increment
  let (widest, emptyLines, s) ← readIndent start stated (s.rest.length + 1) s 0 []
  let indent := if stated == 0 then max (max widest (outer + 1).toNat) 1 else stated
  let (text, lastBreak, emptyLines, s) ←
    readLines literal start indent (s.rest.length + 1) s [] [] emptyLines false
  let text := if chomping == .strip then text else text ++ lastBreak
  .ok (if chomping == .keep then text ++ emptyLines else text, s)

end Yaml

end DocPages
