import DocPages.Yaml.Scalar

/-!
# YAML Tokens

A file is cut into tokens: indicators, scalars, anchors, tags, and the beginnings and ends of blocks,
which the indentation shows.  Whether a scalar is the key of a mapping is known only when its colon is
found, so a token that may turn out to be a key is remembered, and the tokens that announce the key
are inserted before it later.

## Main definitions

- `Yaml.Token`
- `Yaml.Tokens`: the tokens of a file, with the fault that ended them
- `Yaml.tokens`: cutting a text
-/

namespace DocPages

namespace Yaml

/-! ## §1 Tokens -/

/-- What a token is. -/
inductive TokenKind where
  | streamStart
  | streamEnd
  | version (major minor : Nat)
  | handle (name expansion : Bytes)
  | documentStart
  | documentEnd
  | blockSequenceStart
  | blockMappingStart
  | blockEnd
  | flowSequenceStart
  | flowSequenceEnd
  | flowMappingStart
  | flowMappingEnd
  | blockEntry
  | flowEntry
  | key
  | value
  | alias (name : Bytes)
  | anchor (name : Bytes)
  | tag (handle suffix : Bytes)
  | scalar (text : Bytes) (plain : Bool)
  deriving DecidableEq, Repr, Inhabited

/-- A token with the place where it begins. -/
structure Token where
  kind : TokenKind
  start : Mark
  deriving DecidableEq, Repr, Inhabited

/-- A token that may turn out to be the key of a mapping. -/
structure Candidate where
  /-- Whether only a key may stand where it stands. -/
  required : Bool
  /-- The number of tokens before it. -/
  position : Nat
  start : Mark

/-- A text being cut into tokens. -/
structure Scanner where
  source : Source
  tokens : Array Token
  /-- The column of the innermost block, or minus one outside every block. -/
  indent : Int
  /-- The columns of the blocks around it. -/
  outer : List Int
  /-- The number of open brackets. -/
  depth : Nat
  /-- Whether a key may begin here. -/
  keyAllowed : Bool
  /-- The possible key within the innermost bracket. -/
  candidate : Option Candidate
  /-- The possible keys around it. -/
  outerCandidates : List (Option Candidate)

namespace Scanner

/-- The beginning of a text. -/
def start (text : List Rune) : Scanner :=
  { source := .start text, tokens := #[⟨.streamStart, ⟨0, 0, 0⟩⟩], indent := -1, outer := []
    depth := 0, keyAllowed := true, candidate := none, outerCandidates := [] }

/-- The place that reading has come to. -/
def mark (s : Scanner) : Mark := s.source.mark

/-- Whether brackets are open. -/
def inFlow (s : Scanner) : Bool := s.depth != 0

/-- A fault with the token being read. -/
def fail (s : Scanner) (problem : Problem) (context : Mark) : Except Fault Scanner :=
  .error (.inText problem context s.mark)

/-- Adds a token that begins at a place. -/
def push (s : Scanner) (kind : TokenKind) (start : Mark) : Scanner :=
  { s with tokens := s.tokens.push ⟨kind, start⟩ }

/-- Inserts a token before those from position `i`. -/
def insert (s : Scanner) (i : Nat) (kind : TokenKind) (start : Mark) : Scanner :=
  { s with tokens := s.tokens.insertIdxIfInBounds i ⟨kind, start⟩ }

/-- Adds a token of `n` characters. -/
def indicator (s : Scanner) (kind : TokenKind) (n : Nat) : Scanner :=
  { s.push kind s.mark with source := s.source.skipMany n }

/-! ## §2 Possible keys -/

/-- Whether a possible key is still on the line and near enough to be one. -/
def isNear (s : Scanner) (c : Candidate) : Bool :=
  !(decide (c.start.line < s.mark.line) || decide (c.start.index + 1024 < s.mark.index))

/-- Gives up the possible key; a key that had to be one is a fault. -/
def dropCandidate (s : Scanner) : Except Fault Scanner :=
  match s.candidate with
  | some c => if c.required then s.fail .keyWithoutColon c.start else .ok { s with candidate := none }
  | none => .ok s

/-- Remembers that the token at this place may be a key, if keys are allowed here. -/
def saveCandidate (s : Scanner) : Except Fault Scanner :=
  if s.keyAllowed then do
    let required := !s.inFlow && s.indent == (s.mark.column : Int)
    let s ← s.dropCandidate
    .ok { s with candidate := some ⟨required, s.tokens.size, s.mark⟩ }
  else .ok s

/-! ## §3 Blocks -/

/-- The number of brackets or blocks that may be open. -/
def depthLimit : Nat := 10000

/-- Opens a block at a column to the right of the innermost; the token stands at the end, or at a
    position. -/
def openBlock (s : Scanner) (column : Nat) (position : Option Nat) (kind : TokenKind) (start : Mark) :
    Except Fault Scanner :=
  if s.inFlow || decide ((column : Int) ≤ s.indent) then .ok s
  else if depthLimit ≤ s.outer.length then s.fail .nestedTooDeep start
  else
    let s := { s with outer := s.indent :: s.outer, indent := (column : Int) }
    .ok (match position with
      | some i => s.insert i kind start
      | none => s.push kind start)

/-- Closes blocks, from the innermost, while they stand to the right of a column. -/
def closeColumns (start : Mark) (column : Int) : List Int → Scanner → Scanner
  | [], s => s
  | outer :: more, s =>
    if column < s.indent then
      closeColumns start column more { s.push .blockEnd start with indent := outer, outer := more }
    else s

/-- Closes the blocks to the right of a column, unless brackets are open. -/
def closeBlocks (s : Scanner) (column : Int) (start : Mark) : Scanner :=
  if s.inFlow then s else closeColumns start column s.outer s

/-! ## §4 Space between tokens -/

/-- Passes a comment, and the comments on the lines below it. -/
def skipComments : Nat → Source → Source
  | 0, s => s
  | fuel + 1, s =>
    let s := s.dropWhile fun c => !isBreakOrEnd c
    let space := (s.rest.take 512).takeWhile fun r => isBlank r.code || isBreak r.code
    if ((s.rest.take 512).drop space.length).head?.any fun r => r.code == code '#' then
      match readGap (fun _ => false) s.rest.length s Gap.none with
      | .ok (_, s) => skipComments fuel s
      | .error s => s
    else s

/-- Passes blanks, comments and line breaks.  A tab may not stand where a key may begin; outside
    brackets a key may begin on a new line. -/
def skipSpace : Nat → Scanner → Scanner
  | 0, s => s
  | fuel + 1, s =>
    let source := if s.mark.column == 0 && s.source.next == 0xFEFF then s.source.skip else s.source
    let tabs := s.inFlow || !s.keyAllowed
    let source := source.dropWhile fun c => c == 0x20 || (tabs && c == 0x09)
    let source := if source.next == code '#' then skipComments source.rest.length source else source
    if isBreak source.next then
      skipSpace fuel { s with source := source.skipLine, keyAllowed := s.keyAllowed || !s.inFlow }
    else { s with source := source }

/-- Passes a comment on the line of the token that was just read. -/
def skipLineComment (s : Scanner) : Scanner :=
  if s.source.breaks != 0 then s
  else
    let source := s.source.dropWhile isBlank
    if source.next == code '#' then
      { s with source := source.dropWhile fun c => !isBreakOrEnd c }
    else s

/-! ## §5 Anchors, tags and directives -/

/-- Reads an anchor or an alias. -/
def readAnchor (s : Scanner) (kind : Bytes → TokenKind) : Except Fault Scanner :=
  let start := s.mark
  let (name, source) := s.source.skip.takeWhile isNameCharacter
  let after := source.next
  let stops := isSpaceOrEnd after || ['?', ':', ',', ']', '\x7d', '%', '@', '`'].any (code · == after)
  if name.isEmpty || !stops then { s with source := source }.fail .badAnchorName start
  else .ok { s.push (kind name) start with source := source }

/-- A character of the address that names a kind of value. -/
def isUriCharacter (c : Nat) : Bool :=
  isNameCharacter c || ";/?:@&=+$,.!~*'()[]%".toList.any (code · == c)

/-- Reads an address; `%` and two digits stand for a byte. -/
def readUri (start : Mark) : Nat → Source → Bytes → Except Fault (Bytes × Source)
  | 0, s, text => .ok (text, s)
  | fuel + 1, s, text =>
    if !isUriCharacter s.next then .ok (text, s)
    else if s.next == code '%' then
      match hexadecimal? (s.rest.drop 1 |>.take 2), (s.rest.drop 1 |>.take 2).length with
      | some value, 2 => readUri start fuel (s.skipMany 3) (text ++ [value.toUInt8])
      | _, _ => .error (.inText .badUriEscape start s.mark)
    else readUri start fuel s.skip (text ++ s.raw)

/-- Reads an address that may not be empty unless something stands before it. -/
def readTagUri (start : Mark) (before : Bytes) (s : Source) : Except Fault (Bytes × Source) := do
  let (text, t) ← readUri start s.rest.length s []
  if before.isEmpty && t.mark == s.mark then .error (.inText .noTagUri start t.mark)
  else .ok (before.drop 1 ++ text, t)

/-- Reads a handle: an exclamation mark, a name, and an exclamation mark if one follows. -/
def readHandle (directive : Bool) (start : Mark) (s : Source) : Except Fault (Bytes × Source) :=
  if s.next != code '!' then .error (.inText .noTagMark start s.mark)
  else
    let (name, t) := s.skip.takeWhile isNameCharacter
    let handle := s.raw ++ name
    if t.next == code '!' then .ok (handle ++ t.raw, t.skip)
    else if directive && !name.isEmpty then .error (.inText .noTagMark start t.mark)
    else .ok (handle, t)

/-- Reads a tag. -/
def readTag (s : Scanner) : Except Fault Scanner := do
  let start := s.mark
  let (handle, suffix, source) ←
    if s.source.ahead 1 == code '<' then do
      let (suffix, t) ← readTagUri start [] (s.source.skipMany 2)
      if t.next != code '>' then .error (.inText .noTagEnd start t.mark)
      pure (([] : Bytes), suffix, t.skip)
    else do
      let (handle, t) ← readHandle false start s.source
      if handle.length > 1 && handle.getLast? == some 0x21 then do
        let (suffix, t) ← readTagUri start [] t
        pure (handle, suffix, t)
      else do
        let (suffix, t) ← readTagUri start handle t
        pure (if suffix.isEmpty then ([], handle, t) else (bytes "!", suffix, t))
  if !isSpaceOrEnd source.next then .error (.inText .textAfterTag start source.mark)
  else .ok { s.push (.tag handle suffix) start with source := source }

/-- Reads a number of a version. -/
def readVersionNumber (start : Mark) (s : Source) : Except Fault (Nat × Source) :=
  let (digits, t) := s.takeWhile isDigit
  if 2 < digits.length then .error (.inText .longVersionNumber start (s.skipMany 2).mark)
  else if digits.isEmpty then .error (.inText .noVersionNumber start s.mark)
  else .ok (digits.foldl (fun n b => n * 10 + (b.toNat - 0x30)) 0, t)

/-- Reads what follows the name of a directive. -/
def readDirectiveValue (start : Mark) (name : Bytes) (s : Source) :
    Except Fault (TokenKind × Source) :=
  if name == bytes "YAML" then do
    let (major, s) ← readVersionNumber start (s.dropWhile isBlank)
    if s.next != code '.' then .error (.inText .noVersionDot start s.mark)
    let (minor, s) ← readVersionNumber start s.skip
    pure (.version major minor, s)
  else if name == bytes "TAG" then do
    let (handle, s) ← readHandle true start (s.dropWhile isBlank)
    if !isBlank s.next then .error (.inText .noDirectiveBlank start s.mark)
    let (expansion, s) ← readTagUri start [] (s.dropWhile isBlank)
    if !isSpaceOrEnd s.next then .error (.inText .textAfterTag start s.mark)
    pure (.handle handle expansion, s)
  else .error (.inText .unknownDirective start s.mark)

/-- Reads a directive. -/
def readDirective (s : Scanner) : Except Fault Scanner := do
  let start := s.mark
  let (name, source) := s.source.skip.takeWhile isNameCharacter
  if name.isEmpty then .error (.inText .noDirectiveName start source.mark)
  if !isSpaceOrEnd source.next then .error (.inText .textAfterDirectiveName start source.mark)
  let (kind, source) ← readDirectiveValue start name source
  let source := skipToLineEnd source
  if !isBreakOrEnd source.next then .error (.inText .textAfterDirective start source.mark)
  .ok { s.push kind start with source := if isBreak source.next then source.skipLine else source }

/-! ## §6 The next token -/

/-- Ends every block and gives up the possible key, before a token of the document's outline. -/
def leaveBlocks (s : Scanner) : Except Fault Scanner := do
  let s ← (s.closeBlocks (-1) s.mark).dropCandidate
  .ok { s with keyAllowed := false }

/-- The end of the text, which stands at the beginning of a line. -/
def finish (s : Scanner) : Except Fault Scanner := do
  let mark := s.mark
  let mark : Mark := if mark.column == 0 then mark else ⟨mark.index, mark.line + 1, 0⟩
  let s ← { s with source := { s.source with mark := mark } }.leaveBlocks
  .ok (s.push .streamEnd mark)

/-- A bracket that opens. -/
def openBracket (s : Scanner) (kind : TokenKind) : Except Fault Scanner := do
  let s ← s.saveCandidate
  if depthLimit ≤ s.depth then s.fail .nestedTooDeep ⟨0, 0, 0⟩
  else
    .ok { s.indicator kind 1 with
      depth := s.depth + 1, keyAllowed := true, candidate := none
      outerCandidates := s.candidate :: s.outerCandidates }

/-- A bracket that closes. -/
def closeBracket (s : Scanner) (kind : TokenKind) : Except Fault Scanner := do
  let s ← s.dropCandidate
  let s := { s.indicator kind 1 with keyAllowed := false }
  .ok (match s.depth, s.outerCandidates with
    | depth + 1, candidate :: more =>
      { s with depth := depth, candidate := candidate, outerCandidates := more }
    | _, _ => s)

/-- A hyphen that begins an entry of a block sequence. -/
def entry (s : Scanner) : Except Fault Scanner := do
  if !s.inFlow && !s.keyAllowed then s.fail .entryNotAllowed s.mark
  else
    let s ← s.openBlock s.mark.column none .blockSequenceStart s.mark
    let s ← s.dropCandidate
    .ok { s.indicator .blockEntry 1 with keyAllowed := true }

/-- A question mark that begins a key. -/
def explicitKey (s : Scanner) : Except Fault Scanner := do
  if !s.inFlow && !s.keyAllowed then s.fail .keyNotAllowed s.mark
  else
    let s ← s.openBlock s.mark.column none .blockMappingStart s.mark
    let s ← s.dropCandidate
    .ok { s.indicator .key 1 with keyAllowed := !s.inFlow }

/-- A colon after the key at a possible key's place. -/
def valueOf (s : Scanner) (c : Candidate) : Except Fault Scanner := do
  let s := s.insert c.position .key c.start
  let s ← s.openBlock c.start.column (some c.position) .blockMappingStart c.start
  .ok { s.indicator .value 1 with candidate := none, keyAllowed := false }

/-- A colon after a key that was begun by a question mark, or after none. -/
def explicitValue (s : Scanner) : Except Fault Scanner := do
  if !s.inFlow && !s.keyAllowed then s.fail .valueNotAllowed s.mark
  else
    let s ← s.openBlock s.mark.column none .blockMappingStart s.mark
    .ok { s.indicator .value 1 with keyAllowed := !s.inFlow }

/-- A colon. -/
def value (s : Scanner) : Except Fault Scanner :=
  match s.candidate with
  | some c =>
    if s.isNear c then s.valueOf c
    else if c.required then s.fail .keyWithoutColon c.start
    else { s with candidate := none }.explicitValue
  | none => s.explicitValue

/-- A scalar in quotes. -/
def quoted (s : Scanner) (single : Bool) : Except Fault Scanner := do
  let s ← s.saveCandidate
  let (text, source) ← readQuoted single s.source
  .ok { s.push (.scalar text false) s.mark with source := source, keyAllowed := false }

/-- A scalar without quotes. -/
def plain (s : Scanner) : Except Fault Scanner := do
  let s ← s.saveCandidate
  let (text, broken, source) ← readPlain s.inFlow (s.indent + 1) s.source
  .ok { s.push (.scalar text true) s.mark with source := source, keyAllowed := broken }

/-- A block scalar. -/
def block (s : Scanner) (literal : Bool) : Except Fault Scanner := do
  let s ← s.dropCandidate
  let (text, source) ← readBlock literal s.indent s.source
  .ok { s.push (.scalar text false) s.mark with source := source, keyAllowed := true }

/-- Whether a character can begin nothing but its own kind of token. -/
def isIndicator (c : Nat) : Bool := "-?:,[]\x7b\x7d#&*!|>'\"%@`".toList.any (code · == c)

/-- Whether a plain scalar can begin here. -/
def plainStarts (s : Scanner) : Bool :=
  let c := s.source.next
  let after := s.source.ahead 1
  !(isSpaceOrEnd c || isIndicator c) || (c == code '-' && !isBlank after)
    || (!s.inFlow && (c == code '?' || c == code ':') && !isSpaceOrEnd after)

/-- Reads the token at this place, which is inside a line. -/
def content (s : Scanner) : Except Fault Scanner :=
  let c := s.source.next
  let spaced := isSpaceOrEnd (s.source.ahead 1)
  if c == code '[' then s.openBracket .flowSequenceStart
  else if c == 0x7B then s.openBracket .flowMappingStart
  else if c == code ']' then s.closeBracket .flowSequenceEnd
  else if c == 0x7D then s.closeBracket .flowMappingEnd
  else if c == code ',' then do
    let s ← s.dropCandidate
    .ok { s.indicator .flowEntry 1 with keyAllowed := true }
  else if c == code '-' && spaced then s.entry
  else if c == code '?' && (s.inFlow || spaced) then s.explicitKey
  else if c == code ':' && (s.inFlow || spaced) then s.value
  else if c == code '*' then do
    let s ← s.saveCandidate
    { s with keyAllowed := false }.readAnchor .alias
  else if c == code '&' then do
    let s ← s.saveCandidate
    { s with keyAllowed := false }.readAnchor .anchor
  else if c == code '!' then do
    let s ← s.saveCandidate
    { s with keyAllowed := false }.readTag
  else if c == code '|' && !s.inFlow then s.block true
  else if c == code '>' && !s.inFlow then s.block false
  else if c == code '\'' then s.quoted true
  else if c == code '"' then s.quoted false
  else if s.plainStarts then s.plain
  else s.fail .noToken s.mark

/-- Reads the next token, with the ends of the blocks before it. -/
def step (s : Scanner) : Except Fault Scanner :=
  let before := s.mark
  let s := skipSpace (s.source.rest.length + 1) s
  let s := s.closeBlocks s.mark.column before
  if s.source.atEnd then s.finish
  else if s.mark.column == 0 && s.source.next == code '%' then do
    (← s.leaveBlocks).readDirective
  else if s.source.atDocumentMark then do
    let s ← s.leaveBlocks
    .ok (s.indicator (if s.source.next == code '-' then .documentStart else .documentEnd) 3)
  else do
    let s ← s.content
    .ok (if s.tokens.back?.any fun t => t.kind == .blockEntry then s else s.skipLineComment)

/-- The possible keys that may still turn out to be keys. -/
def pending (s : Scanner) : List Nat :=
  (s.candidate :: s.outerCandidates).filterMap fun c =>
    c.bind fun c => if s.isNear c || c.required then some c.position else none

/-- The fault of a token that had to be a key, once two tokens follow it and its line is over. -/
def overdue? (s : Scanner) : Option Fault :=
  (s.candidate :: s.outerCandidates).findSome? fun c =>
    c.bind fun c =>
      if c.required && !s.isNear c && decide (c.position + 3 ≤ s.tokens.size) then
        some (.inText .keyWithoutColon c.start s.mark)
      else none

/-- Reads the next token, unless a key is overdue. -/
def advance (s : Scanner) : Except Fault Scanner :=
  match s.overdue? with
  | some fault => .error fault
  | none => s.step

end Scanner

/-! ## §7 The tokens of a file -/

/-- The tokens of a file, up to the end or to a fault. -/
structure Tokens where
  all : Array Token
  /-- The fault that ended the cutting. -/
  fault : Option Fault
  /-- The positions of the tokens that were still possible keys at the fault. -/
  pending : List Nat

/-- Cuts the rest of a text. -/
def Scanner.run : Nat → Scanner → Tokens
  | 0, s => ⟨s.tokens, none, []⟩
  | fuel + 1, s =>
    match s.advance with
    | .error fault => ⟨s.tokens, some fault, s.pending⟩
    | .ok s =>
      if s.tokens.back?.any fun t => t.kind == .streamEnd then ⟨s.tokens, none, []⟩
      else run fuel s

/-- Cuts a text into tokens; every token but the last takes at least one character. -/
def tokens (text : List Rune) : Tokens := (Scanner.start text).run (text.length + 2)

/-- The token at a position.  Tokens are cut two ahead of the one that is looked at, so a fault is
    reported that much earlier. -/
def Tokens.get (ts : Tokens) (i : Nat) : Except Fault Token :=
  match ts.fault with
  | some fault =>
    if ts.all.size ≤ i + 2 || ts.pending.contains i then .error fault
    else .ok (ts.all.getD i default)
  | none => .ok (ts.all.getD i (ts.all.back?.getD default))

end Yaml

end DocPages
