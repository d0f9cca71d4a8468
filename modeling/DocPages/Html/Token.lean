import DocPages.Html.Reference

/-!
# HTML Tokens

A page is read as a sequence of tokens: text, tags, comments and the document type.  Nothing is ever
an error, since whatever is no tag is text.  After the tag of an element such as `script` the text up
to its end tag is raw, so that tags inside it are not seen.

## Main definitions

- `Token`, `Attribute`
- `decodeReferences`: text with its character references read
- `nextToken`: the token that a text begins with
-/

namespace DocPages

namespace Html

/-! ## §1 Tokens -/

/-- One attribute of a tag: a name in small letters and a value. -/
structure Attribute where
  name : Bytes
  value : Bytes
  deriving DecidableEq, Repr

/-- What a page is made of. -/
inductive Token where
  | text (content : Bytes)
  | startTag (name : Bytes) (attributes : List Attribute) (selfClosing : Bool)
  | endTag (name : Bytes)
  | comment
  | doctype (content : Bytes)
  | done
  deriving DecidableEq, Repr

/-- White space between and inside tags. -/
def isSpace (b : UInt8) : Bool := b == 0x20 || b == 0x0A || b == 0x0D || b == 0x09 || b == 0x0C

/-- The bytes that can follow the name of a tag. -/
def endsName (b : UInt8) : Bool := isSpace b || b == byte '/' || b == byte '>'

/-! ## §2 Character references -/

/-- What the numbers 0x80 to 0x9F stand for. -/
def replacements : List Nat := [
  0x20AC, 0x81, 0x201A, 0x192, 0x201E, 0x2026, 0x2020, 0x2021, 0x2C6, 0x2030, 0x160, 0x2039, 0x152,
  0x8D, 0x17D, 0x8F, 0x90, 0x2018, 0x2019, 0x201C, 0x201D, 0x2022, 0x2013, 0x2014, 0x2DC, 0x2122,
  0x161, 0x203A, 0x153, 0x9D, 0x17E, 0x178]

/-- The character with a number as far as a reference names one. -/
def numberedCharacter (n : Nat) : Bytes :=
  if 0x80 ≤ n ∧ n ≤ 0x9F then encodeRune (replacements.getD (n - 0x80) 0)
  else if n = 0 then encodeRune Utf8.replacement
  else encodeRune n

/-- Reads a numeric reference after its number sign; numbers wrap at 32 bits.  A single decimal digit
    must be followed by a semicolon. -/
def numericReference? (s : Bytes) : Option (Bytes × Nat) :=
  let (base, start) := match s with
    | b :: _ => if b = byte 'x' || b = byte 'X' then (16, 1) else (10, 0)
    | [] => (10, 0)
  let body := s.drop start
  let digits := body.takeWhile fun b => if base = 16 then (Bytes.hexValue? b).isSome else Bytes.isDigit b
  let closed := (body.drop digits.length).head? == some (byte ';')
  let taken := start + digits.length + (if closed then 1 else 0)
  if s.length ≤ 1 || taken ≤ 1 then none
  else
    let n := digits.foldl (fun n d => (n * base + (Bytes.hexValue? d).getD 0) % 0x100000000) 0
    some (numberedCharacter n, taken)

/-- The longest name without a semicolon that a name begins with, and its character. -/
def bareReference? (name : Bytes) : Nat → Option (Bytes × Nat)
  | 0 => none
  | n + 1 =>
    let candidate := name.take (n + 1)
    if 1 ≤ n && bareNames.contains candidate then (character? candidate).map fun c => (c, n + 1)
    else bareReference? name n

/-- Reads a named reference after its ampersand.  In an attribute a name without a semicolon must be
    complete and may not stand before an equals sign. -/
def namedReference? (inAttribute : Bool) (s : Bytes) : Option (Bytes × Nat) :=
  let name := s.takeWhile Bytes.isAlphanumeric
  let next := (s.drop name.length).head?
  if name.isEmpty && next != some (byte ';') then none
  else if next == some (byte ';') then
    match character? name with
    | some c => some (c, name.length + 1)
    | none => if inAttribute then none else bareReference? name (min name.length 6)
  else if inAttribute && next == some (byte '=') then none
  else if bareNames.contains name then (character? name).map fun c => (c, name.length)
  else if inAttribute then none
  else bareReference? name (min (name.length - 1) 6)

/-- Reads a reference after its ampersand: what it stands for and the bytes it takes. -/
def reference? (inAttribute : Bool) (s : Bytes) : Option (Bytes × Nat) :=
  match s with
  | 0x23 :: rest => (numericReference? rest).map fun (c, n) => (c, n + 1)
  | _ => namedReference? inAttribute s

/-- Decodes a text after its first `skip` bytes. -/
def decodeFrom (inAttribute : Bool) : Nat → Bytes → Bytes
  | _, [] => []
  | skip + 1, _ :: rest => decodeFrom inAttribute skip rest
  | 0, b :: rest =>
    if b = byte '&' then
      match reference? inAttribute rest with
      | some (c, taken) => c ++ decodeFrom inAttribute taken rest
      | none => b :: decodeFrom inAttribute 0 rest
    else b :: decodeFrom inAttribute 0 rest

/-- Text with its character references read. -/
def decodeReferences (inAttribute : Bool) (s : Bytes) : Bytes := decodeFrom inAttribute 0 s

/-- Text whose line ends are all single newlines. -/
def unifyNewlines : Bytes → Bytes
  | [] => []
  | 0x0D :: 0x0A :: rest => 0x0A :: unifyNewlines rest
  | b :: rest => (if b = 0x0D then 0x0A else b) :: unifyNewlines rest

/-! ## §3 Tags -/

/-- Reads the value of an attribute, at what follows its name: the value, the rest, and whether a
    slash stood in its place. -/
def attributeValue (s : Bytes) : Bytes × Bytes × Bool :=
  match s.dropWhile isSpace with
  | 0x2F :: rest => ([], rest, true)
  | 0x3D :: rest =>
    match rest.dropWhile isSpace with
    | [] => ([], [], false)
    | q :: rest =>
      if q = byte '>' then ([], q :: rest, false)
      else if q = 0x22 || q = 0x27 then
        let value := rest.takeWhile (· != q)
        (value, rest.drop (value.length + 1), false)
      else
        let value := (q :: rest).takeWhile fun b => !isSpace b && b != byte '>'
        (value, (q :: rest).drop value.length, false)
  | rest => ([], rest, false)

/-- Reads the name of an attribute; an equals sign can begin one. -/
def attributeName (s : Bytes) : Bytes × Bytes :=
  match s with
  | [] => ([], [])
  | b :: rest =>
    if endsName b then ([], b :: rest)
    else
      let more := rest.takeWhile fun b => !endsName b && b != byte '='
      (b :: more, rest.drop more.length)

/-- Reads the attributes of a tag up to its closing bracket: the attributes, whether a slash stands
    just before the bracket, and the rest; none if there is no bracket.  `fuel` bounds the number of
    attributes. -/
def attributes : Nat → Bool → Bytes → Option (List Attribute × Bool × Bytes)
  | 0, _, _ => none
  | fuel + 1, slash, s =>
    match s with
    | [] => none
    | b :: rest =>
      if b = byte '>' then some ([], slash, rest)
      else
        let (name, after) := attributeName (b :: rest)
        let (value, after, slash) := attributeValue after
        let next := after.dropWhile isSpace
        let slash := slash && next.length == after.length
        match attributes fuel slash next with
        | none => none
        | some (more, selfClosing, rest) =>
          if name.isEmpty then some (more, selfClosing, rest)
          else
            let value := decodeReferences true (unifyNewlines value)
            some (⟨name.map Bytes.lower, value⟩ :: more, selfClosing, rest)

/-- Reads a tag from its name on. -/
def tag? (s : Bytes) : Option (Bytes × List Attribute × Bool × Bytes) :=
  let name := s.takeWhile fun b => !endsName b
  let rest := (s.drop name.length).dropWhile isSpace
  (attributes (rest.length + 1) false rest).map fun (found, selfClosing, rest) =>
    (name.map Bytes.lower, found, selfClosing, rest)

/-! ## §4 Raw text -/

/-- The elements whose text is raw. -/
def rawNames : List Bytes :=
  [bytes "iframe", bytes "noembed", bytes "noframes", bytes "noscript", bytes "plaintext",
    bytes "script", bytes "style", bytes "textarea", bytes "title", bytes "xmp"]

/-- Whether a name follows, in either case, and ends there. -/
def namedHere (name s : Bytes) : Bool :=
  (s.take name.length).map Bytes.lower == name &&
    match s.drop name.length with
    | b :: _ => endsName b
    | [] => false

/-- Whether an end tag of a raw element begins after a `<`. -/
def endsRaw (name s : Bytes) : Bool :=
  match s with
  | 0x2F :: rest => namedHere name rest
  | _ => false

/-- Divides a text before the end tag of a raw element. -/
def splitRaw (name : Bytes) : Bytes → Bytes × Bytes
  | [] => ([], [])
  | b :: rest =>
    if b = byte '<' && endsRaw name rest then ([], b :: rest)
    else
      let (text, after) := splitRaw name rest
      (b :: text, after)

/-- Where the text of a script is: outside a comment, inside one, or in a script inside one.  The
    number counts the dashes just before. -/
inductive ScriptPlace where
  | plain
  | escaped (dashes : Nat)
  | nested (dashes : Nat)
  deriving DecidableEq, Repr

/-- Divides a text before the end tag of a script.  In a comment, a script inside it hides its end
    tag.  The first `skip` bytes are passed over. -/
def splitScript : Nat → ScriptPlace → Bytes → Bytes × Bytes
  | _, _, [] => ([], [])
  | skip + 1, place, b :: rest =>
    let (text, after) := splitScript skip place rest
    (b :: text, after)
  | 0, place, b :: rest =>
    let name := bytes "script"
    let go := fun (r : Bytes × Bytes) => (b :: r.1, r.2)
    match place with
    | .plain =>
      if b = byte '<' then
        if endsRaw name rest then ([], b :: rest)
        else if (bytes "!--").isPrefixOf rest then go (splitScript 3 (.escaped 2) rest)
        else go (splitScript 0 .plain rest)
      else go (splitScript 0 .plain rest)
    | .escaped dashes =>
      if b = byte '-' then go (splitScript 0 (.escaped (dashes + 1)) rest)
      else if b = byte '>' && 2 ≤ dashes then go (splitScript 0 .plain rest)
      else if b = byte '<' then
        match rest with
        | [] => ([b], [])
        | c :: _ =>
          if c = byte '/' then
            if endsRaw name rest then ([], b :: rest) else go (splitScript 1 (.escaped 0) rest)
          else if namedHere name rest then go (splitScript (name.length + 1) (.nested 0) rest)
          else if Bytes.isLetter c then go (splitScript 0 (.escaped 0) rest)
          else go (splitScript 0 .plain rest)
      else go (splitScript 0 (.escaped 0) rest)
    | .nested dashes =>
      if b = byte '-' then go (splitScript 0 (.nested (dashes + 1)) rest)
      else if b = byte '>' && 2 ≤ dashes then go (splitScript 0 .plain rest)
      else if b = byte '<' && endsRaw name rest then
        go (splitScript (name.length + 2) (.escaped 0) rest)
      else go (splitScript 0 (.nested 0) rest)

/-- Divides raw text from what follows it. -/
def rawText (name s : Bytes) : Bytes × Bytes :=
  if name = bytes "plaintext" then (s, [])
  else if name = bytes "script" then splitScript 0 .plain s
  else splitRaw name s

/-! ## §5 The next token -/

/-- What follows a comment.  `dashes` stand just before, `fresh` says that nothing else has come yet,
    and `bang` that two dashes and an exclamation mark have. -/
def afterComment (dashes : Nat) (fresh bang : Bool) : Bytes → Bytes
  | [] => []
  | b :: rest =>
    if bang && b = byte '>' then rest
    else if bang && b = byte '-' then afterComment 1 false false rest
    else if bang then afterComment 0 false false rest
    else if b = byte '-' then afterComment (dashes + 1) fresh false rest
    else if b = byte '>' && (2 ≤ dashes || fresh) then rest
    else if b = byte '!' && 2 ≤ dashes then afterComment 0 false true rest
    else afterComment 0 false false rest

/-- What follows the next closing bracket. -/
def afterBracket (s : Bytes) : Bytes := (s.dropWhile (· != byte '>')).drop 1

/-- Reads a declaration after `<!`.  `foreign` says that marked sections are text. -/
def declaration (foreign : Bool) (s : Bytes) : Token × Bytes :=
  match Bytes.dropPrefix? (bytes "--") s with
  | some rest => (.comment, afterComment 0 true false rest)
  | none =>
    if (s.take 7).map Bytes.lower == bytes "doctype" then
      let content := (s.drop 7).dropWhile isSpace
      (.doctype (content.takeWhile (· != byte '>')), afterBracket content)
    else
      match (if foreign then Bytes.dropPrefix? (bytes "[CDATA[") s else none) with
      | some rest =>
        match Bytes.cutFirst? (bytes "]]>") rest with
        | some (content, rest) => (.text content, rest)
        | none => (.text rest, [])
      | none => (.comment, afterBracket s)

/-- Reads a tag, comment or declaration after its `<`; none if the bracket is only text. -/
def markup? (foreign : Bool) (s : Bytes) : Option (Token × Bytes) :=
  match s with
  | [] => none
  | c :: rest =>
    if Bytes.isLetter c then
      match tag? s with
      | some (name, found, selfClosing, rest) => some (.startTag name found selfClosing, rest)
      | none => some (.done, [])
    else if c = byte '!' then some (declaration foreign rest)
    else if c = byte '?' then some (.comment, afterBracket s)
    else if c = byte '/' then
      match rest with
      | [] => none
      | d :: _ =>
        if Bytes.isLetter d then
          match tag? rest with
          | some (name, _, _, rest) => some (.endTag name, rest)
          | none => some (.done, [])
        else some (.comment, afterBracket rest)
    else none

/-- Whether a `<` with this after it begins something else than text. -/
def beginsMarkup (s : Bytes) : Bool :=
  match s with
  | [] => false
  | c :: _ => Bytes.isLetter c || c == byte '/' || c == byte '!' || c == byte '?'

/-- Divides plain text from the markup that follows it. -/
def splitText : Bytes → Bytes × Bytes
  | [] => ([], [])
  | b :: rest =>
    if b = byte '<' && beginsMarkup rest then ([], b :: rest)
    else
      let (text, after) := splitText rest
      (b :: text, after)

/-- The token that a text begins with, and the rest; `done` at its end, and at a tag that is not
    closed. -/
def plainToken (foreign : Bool) (s : Bytes) : Token × Bytes :=
  match splitText s with
  | ([], []) => (.done, [])
  | ([], b :: rest) =>
    match markup? foreign rest with
    | some found => found
    | none => (.text (b :: rest), [])
  | (text, after) => (.text (decodeReferences false (unifyNewlines text)), after)

/-- The next token, where `raw` names the element whose raw text comes first. -/
def nextToken (raw : Option Bytes) (foreign : Bool) (s : Bytes) : Token × Bytes :=
  match raw with
  | none => plainToken foreign s
  | some name =>
    match rawText name s with
    | ([], after) => plainToken foreign after
    | (text, after) => (.text text, after)

end Html

end DocPages
