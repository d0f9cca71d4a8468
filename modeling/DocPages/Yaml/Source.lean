import DocPages.Text.Utf8

/-!
# YAML Text

A settings file is YAML.  Its bytes are first read as characters: UTF-8, or UTF-16 if it begins with a
mark that says so.  Control characters are refused.  A place in the text knows its line and column,
because an error is reported with the line it was found on.

## Main definitions

- `Yaml.Problem`, `Yaml.Fault`: what can be wrong with a file, and where
- `Yaml.characters`: the characters of a file
- `Yaml.Source`: a text with the place that reading has come to
-/

namespace DocPages

namespace Yaml

/-! ## §1 Faults -/

/-- What is wrong with a file. -/
inductive Problem where
  | controlCharacter
  | badLeadingOctet
  | badTrailingOctet
  | incompleteOctets
  | overlongOctets
  | badCharacter
  | incompletePair
  | unexpectedLowSurrogate
  | incompleteSurrogates
  | missingLowSurrogate
  | noToken
  | keyWithoutColon
  | valueNotAllowed
  | keyNotAllowed
  | entryNotAllowed
  | documentMarkInQuotes
  | endInQuotes
  | unknownEscape
  | shortEscape
  | badEscapedCharacter
  | tabInPlain
  | tabInBlock
  | zeroIndentation
  | textAfterHeader
  | badAnchorName
  | noTagUri
  | noTagEnd
  | textAfterTag
  | noTagMark
  | noDirectiveName
  | textAfterDirectiveName
  | unknownDirective
  | noVersionDot
  | noVersionNumber
  | longVersionNumber
  | noDirectiveBlank
  | badUriEscape
  | textAfterDirective
  | nestedTooDeep
  | noDocumentStart
  | noNode
  | noEntryMark
  | noKey
  | noSequenceDivider
  | noMappingDivider
  | undefinedHandle
  | repeatedVersion
  | foreignVersion
  | repeatedHandle
  | unknownAnchor (name : Bytes)
  | insideItself (name : Bytes)
  | mergeOfNoMapping
  | badBase64
  | undecodable (kind value wanted : Bytes)
  deriving DecidableEq, Repr

/-- The wording of a problem. -/
def Problem.message : Problem → Bytes
  | .controlCharacter => bytes "control characters are not allowed"
  | .badLeadingOctet => bytes "invalid leading UTF-8 octet"
  | .badTrailingOctet => bytes "invalid trailing UTF-8 octet"
  | .incompleteOctets => bytes "incomplete UTF-8 octet sequence"
  | .overlongOctets => bytes "invalid length of a UTF-8 sequence"
  | .badCharacter => bytes "invalid Unicode character"
  | .incompletePair => bytes "incomplete UTF-16 character"
  | .unexpectedLowSurrogate => bytes "unexpected low surrogate area"
  | .incompleteSurrogates => bytes "incomplete UTF-16 surrogate pair"
  | .missingLowSurrogate => bytes "expected low surrogate area"
  | .noToken => bytes "found character that cannot start any token"
  | .keyWithoutColon => bytes "could not find expected ':'"
  | .valueNotAllowed => bytes "mapping values are not allowed in this context"
  | .keyNotAllowed => bytes "mapping keys are not allowed in this context"
  | .entryNotAllowed => bytes "block sequence entries are not allowed in this context"
  | .documentMarkInQuotes => bytes "found unexpected document indicator"
  | .endInQuotes => bytes "found unexpected end of stream"
  | .unknownEscape => bytes "found unknown escape character"
  | .shortEscape => bytes "did not find expected hexdecimal number"
  | .badEscapedCharacter => bytes "found invalid Unicode character escape code"
  | .tabInPlain => bytes "found a tab character that violates indentation"
  | .tabInBlock => bytes "found a tab character where an indentation space is expected"
  | .zeroIndentation => bytes "found an indentation indicator equal to 0"
  | .textAfterHeader => bytes "did not find expected comment or line break"
  | .badAnchorName => bytes "did not find expected alphabetic or numeric character"
  | .noTagUri => bytes "did not find expected tag URI"
  | .noTagEnd => bytes "did not find the expected '>'"
  | .textAfterTag => bytes "did not find expected whitespace or line break"
  | .noTagMark => bytes "did not find expected '!'"
  | .noDirectiveName => bytes "could not find expected directive name"
  | .textAfterDirectiveName => bytes "found unexpected non-alphabetical character"
  | .unknownDirective => bytes "found unknown directive name"
  | .noVersionDot => bytes "did not find expected digit or '.' character"
  | .noVersionNumber => bytes "did not find expected version number"
  | .longVersionNumber => bytes "found extremely long version number"
  | .noDirectiveBlank => bytes "did not find expected whitespace"
  | .badUriEscape => bytes "did not find URI escaped octet"
  | .textAfterDirective => bytes "did not find expected comment or line break"
  | .nestedTooDeep => bytes "exceeded max depth of 10000"
  | .noDocumentStart => bytes "did not find expected <document start>"
  | .noNode => bytes "did not find expected node content"
  | .noEntryMark => bytes "did not find expected '-' indicator"
  | .noKey => bytes "did not find expected key"
  | .noSequenceDivider => bytes "did not find expected ',' or ']'"
  | .noMappingDivider => bytes "did not find expected ',' or '\x7d'"
  | .undefinedHandle => bytes "found undefined tag handle"
  | .repeatedVersion => bytes "found duplicate %YAML directive"
  | .foreignVersion => bytes "found incompatible YAML document"
  | .repeatedHandle => bytes "found duplicate %TAG directive"
  | .unknownAnchor name => bytes "unknown anchor '" ++ name ++ bytes "' referenced"
  | .insideItself name => bytes "anchor '" ++ name ++ bytes "' value contains itself"
  | .mergeOfNoMapping => bytes "map merge requires map or sequence of maps as the value"
  | .badBase64 => bytes "!!binary value contains invalid base64 data"
  | .undecodable kind value wanted =>
    bytes "cannot decode " ++ kind ++ bytes " `" ++ value ++ bytes "` as a " ++ wanted

/-- A place in the text; lines and columns are counted from zero. -/
structure Mark where
  index : Nat
  line : Nat
  column : Nat
  deriving DecidableEq, Repr, Inhabited

/-- A problem with the line it is reported on, or zero for none. -/
structure Fault where
  problem : Problem
  line : Nat
  deriving DecidableEq, Repr

namespace Fault

/-- A problem that is not reported with a line. -/
def anywhere (problem : Problem) : Fault := ⟨problem, 0⟩

/-- A problem with characters: reported on the line where the construct began, or else on the line
    where reading stopped.  The first line goes unmentioned. -/
def inText (problem : Problem) (context place : Mark) : Fault :=
  if context.line != 0 then ⟨problem, context.line + 1⟩
  else if place.line != 0 then ⟨problem, place.line + 1⟩
  else ⟨problem, 0⟩

/-- A problem with the order of tokens: reported as the number of lines above the construct, or else
    above the token. -/
def inStructure (problem : Problem) (context place : Mark) : Fault :=
  ⟨problem, if context.line != 0 then context.line else place.line⟩

/-- The wording of a fault. -/
def message (fault : Fault) : Bytes :=
  bytes "yaml: "
    ++ (if fault.line == 0 then []
        else bytes "line " ++ Bytes.decimalNat fault.line ++ bytes ": ")
    ++ fault.problem.message

end Fault

/-! ## §2 Characters -/

/-- Whether a character may stand in a file. -/
def isAllowed (c : Nat) : Bool :=
  c == 0x09 || c == 0x0A || c == 0x0D || (0x20 ≤ c && c ≤ 0x7E) || c == 0x85
    || (0xA0 ≤ c && c ≤ 0xD7FF) || (0xE000 ≤ c && c ≤ 0xFFFD) || (0x10000 ≤ c && c ≤ 0x10FFFF)

/-- The number of bytes of the sequence that a byte begins. -/
def sequenceLength? (a : UInt8) : Option Nat :=
  if a < 0x80 then some 1
  else if 0xC0 ≤ a && a < 0xE0 then some 2
  else if 0xE0 ≤ a && a < 0xF0 then some 3
  else if 0xF0 ≤ a && a < 0xF8 then some 4
  else none

/-- The code that the bits of a sequence of bytes spell. -/
def spelledCode (a : UInt8) (tail : Bytes) : Nat :=
  let leading := if a < 0x80 then a.toNat else if a < 0xE0 then a.toNat % 32
    else if a < 0xF0 then a.toNat % 16 else a.toNat % 8
  tail.foldl (fun code b => code * 64 + b.toNat % 64) leading

/-- The first problem with UTF-8 text, after its first `skip` bytes. -/
def octetProblem? : Nat → Bytes → Option Problem
  | _, [] => none
  | skip + 1, _ :: rest => octetProblem? skip rest
  | 0, a :: rest =>
    match sequenceLength? a with
    | none => some .badLeadingOctet
    | some width =>
      let tail := rest.take (width - 1)
      if tail.length < width - 1 then some .incompleteOctets
      else if !tail.all Utf8.isTail then some .badTrailingOctet
      else
        let code := spelledCode a tail
        if (width == 2 && code < 0x80) || (width == 3 && code < 0x800)
            || (width == 4 && code < 0x10000) then some .overlongOctets
        else if (0xD800 ≤ code && code < 0xE000) || 0x110000 ≤ code then some .badCharacter
        else if !isAllowed code then some .controlCharacter
        else octetProblem? (width - 1) rest

/-- The sixteen-bit units of a text, the high byte first or last; nothing for an odd byte at the end. -/
def units (highFirst : Bool) : Bytes → Option (List Nat)
  | [] => some []
  | [_] => none
  | a :: b :: rest =>
    let unit := if highFirst then a.toNat * 256 + b.toNat else b.toNat * 256 + a.toNat
    (units highFirst rest).map (unit :: ·)

/-- The code points of sixteen-bit units. -/
def pairs : List Nat → Except Problem (List Nat)
  | [] => .ok []
  | u :: rest =>
    if 0xDC00 ≤ u && u < 0xE000 then .error .unexpectedLowSurrogate
    else if 0xD800 ≤ u && u < 0xDC00 then
      match rest with
      | [] => .error .incompleteSurrogates
      | v :: more =>
        if 0xDC00 ≤ v && v < 0xE000 then
          (pairs more).map ((0x10000 + (u - 0xD800) * 1024 + (v - 0xDC00)) :: ·)
        else .error .missingLowSurrogate
    else if !isAllowed u then .error .controlCharacter
    else (pairs rest).map (u :: ·)

/-- Reads UTF-16 text. -/
def wideCharacters (highFirst : Bool) (text : Bytes) : Except Problem (List Rune) :=
  match units highFirst text with
  | none => .error .incompletePair
  | some us => (pairs us).map fun codes => codes.map fun c => ⟨c, encodeRune c⟩

/-- The characters of a file, without the mark that tells how they are stored. -/
def characters (text : Bytes) : Except Fault (List Rune) :=
  let read : Except Problem (List Rune) :=
    match text with
    | 0xFF :: 0xFE :: rest => wideCharacters false rest
    | 0xFE :: 0xFF :: rest => wideCharacters true rest
    | _ =>
      let body := Bytes.trimPrefix [0xEF, 0xBB, 0xBF] text
      match octetProblem? 0 body with
      | some problem => .error problem
      | none => .ok (runes body)
  match read with
  | .ok cs => .ok cs
  | .error problem => .error (.anywhere problem)

/-! ## §3 The text being read -/

/-- A line break. -/
def isBreak (c : Nat) : Bool := c == 0x0A || c == 0x0D || c == 0x85 || c == 0x2028 || c == 0x2029

/-- A space or a tab. -/
def isBlank (c : Nat) : Bool := c == 0x20 || c == 0x09

/-- A line break or the end of the text, which reads as zero. -/
def isBreakOrEnd (c : Nat) : Bool := isBreak c || c == 0

/-- A blank, a line break or the end of the text. -/
def isSpaceOrEnd (c : Nat) : Bool := isBlank c || isBreakOrEnd c

/-- A character of a name: a letter, a digit, an underscore or a hyphen. -/
def isNameCharacter (c : Nat) : Bool :=
  (0x30 ≤ c && c ≤ 0x39) || (0x41 ≤ c && c ≤ 0x5A) || (0x61 ≤ c && c ≤ 0x7A) || c == 0x5F || c == 0x2D

/-- The code of an ASCII character. -/
def code (c : Char) : Nat := c.toNat

/-- The rest of a text, with the place that reading has come to. -/
structure Source where
  rest : List Rune
  mark : Mark
  /-- The line breaks since the last character that is no blank. -/
  breaks : Nat
  deriving Inhabited

namespace Source

/-- The beginning of a text. -/
def start (text : List Rune) : Source := ⟨text, ⟨0, 0, 0⟩, 0⟩

/-- The code of the next character, or zero at the end. -/
def next (s : Source) : Nat :=
  match s.rest with
  | r :: _ => r.code
  | [] => 0

/-- The code of the character `n` places ahead, or zero beyond the end. -/
def ahead (s : Source) (n : Nat) : Nat := next { s with rest := s.rest.drop n }

/-- Whether the text is used up. -/
def atEnd (s : Source) : Bool := s.rest.isEmpty

/-- Passes one character that is no line break. -/
def skip (s : Source) : Source :=
  { rest := s.rest.drop 1
    mark := ⟨s.mark.index + 1, s.mark.line, s.mark.column + 1⟩
    breaks := if isBlank s.next then s.breaks else 0 }

/-- Passes some characters. -/
def skipMany : Nat → Source → Source
  | 0, s => s
  | n + 1, s => skipMany n s.skip

/-- The bytes of the next character. -/
def raw (s : Source) : Bytes :=
  match s.rest with
  | r :: _ => r.raw
  | [] => []

/-- Passes a line break; a carriage return with a newline is one break. -/
def skipLine (s : Source) : Source :=
  let width := if s.next == 0x0D && s.ahead 1 == 0x0A then 2 else 1
  { rest := s.rest.drop width
    mark := ⟨s.mark.index + width, s.mark.line + 1, 0⟩
    breaks := s.breaks + 1 }

/-- What a line break adds to a text: itself if it is a Unicode separator, and otherwise a newline. -/
def lineText (s : Source) : Bytes :=
  if s.next == 0x2028 || s.next == 0x2029 then s.raw else if isBreak s.next then [0x0A] else []

/-- Passes characters while they satisfy `p`, and gives them. -/
def takeWhile (p : Nat → Bool) (s : Source) : Bytes × Source :=
  let run := s.rest.takeWhile fun r => p r.code
  (unrunes run, skipMany run.length s)

/-- Passes characters while they satisfy `p`. -/
def dropWhile (p : Nat → Bool) (s : Source) : Source := (s.takeWhile p).2

/-- Whether a line begins here with a document mark, three hyphens or three dots. -/
def atDocumentMark (s : Source) : Bool :=
  s.mark.column == 0 && isSpaceOrEnd (s.ahead 3)
    && ((s.next == code '-' && s.ahead 1 == code '-' && s.ahead 2 == code '-')
      || (s.next == code '.' && s.ahead 1 == code '.' && s.ahead 2 == code '.'))

end Source

end Yaml

end DocPages
