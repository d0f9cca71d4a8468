import DocPages.Markdown.Characters

/-!
# Tags inside Markdown

Raw HTML is recognised by shape alone: an opening tag with its attributes, a closing tag, a comment,
a processing instruction, a declaration or a CDATA section.  Each recogniser gives what follows the
construct.

## Main definitions

- `openTag?`, `closeTag?`: the rest after a tag
- `rawHtml?`: the raw HTML at the beginning of a text
-/

namespace DocPages

namespace Markdown

/-- Blanks that may separate the parts of a tag. -/
def isTagSpace (b : UInt8) : Bool := b == 0x20 || b == 0x09 || b == 0x0A || b == 0x0D

/-- A byte of a tag name after its first. -/
def isTagNameByte (b : UInt8) : Bool := Bytes.isAlphanumeric b || b == byte '-'

/-- The first byte of an attribute name. -/
def isAttributeStart (b : UInt8) : Bool := Bytes.isLetter b || b == byte '_' || b == byte ':'

/-- A later byte of an attribute name. -/
def isAttributeByte (b : UInt8) : Bool :=
  Bytes.isAlphanumeric b || b == byte ':' || b == byte '.' || b == byte '_' || b == byte '-'

/-- A byte of an attribute value without quotes. -/
def isBareValueByte (b : UInt8) : Bool :=
  !(b ≤ 0x20 || b == byte '"' || b == byte '\'' || b == byte '=' || b == byte '<' ||
    b == byte '>' || b == 0x60)

/-- The name of a tag and what follows it. -/
def tagName? : Bytes → Option (Bytes × Bytes)
  | [] => none
  | b :: rest =>
    if Bytes.isLetter b then some (b :: rest.takeWhile isTagNameByte, rest.dropWhile isTagNameByte)
    else none

/-- What follows an attribute value. -/
def afterValue? : Bytes → Option Bytes
  | [] => none
  | b :: rest =>
    if b = byte '"' || b = byte '\'' then
      match rest.dropWhile (· != b) with
      | _ :: after => some after
      | [] => none
    else if isBareValueByte b then some (rest.dropWhile isBareValueByte)
    else none

/-- What follows an attribute with the blanks in front of it. -/
def afterAttribute? (s : Bytes) : Option Bytes :=
  match s with
  | [] => none
  | b :: _ =>
    if isTagSpace b then
      match s.dropWhile isTagSpace with
      | [] => none
      | c :: rest =>
        if isAttributeStart c then
          let afterName := rest.dropWhile isAttributeByte
          match afterName.dropWhile isTagSpace with
          | d :: value =>
            if d = byte '=' then some ((afterValue? (value.dropWhile isTagSpace)).getD afterName)
            else some afterName
          | [] => some afterName
        else none
    else none

/-- What follows as many attributes as there are, and whether there was one; `fuel` bounds their
    number. -/
def afterAttributes : Nat → Bytes → Bytes × Bool
  | 0, s => (s, false)
  | fuel + 1, s =>
    match afterAttribute? s with
    | some rest => ((afterAttributes fuel rest).1, true)
    | none => (s, false)

/-- What follows an opening tag. -/
def openTag? (s : Bytes) : Option Bytes := do
  let rest ← Bytes.dropPrefix? (bytes "<") s
  let (_, rest) ← tagName? rest
  let rest := (afterAttributes rest.length rest).1.dropWhile isTagSpace
  Bytes.dropPrefix? (bytes ">") (Bytes.trimPrefix (bytes "/") rest)

/-- What follows a closing tag. -/
def closeTag? (s : Bytes) : Option Bytes := do
  let rest ← Bytes.dropPrefix? (bytes "</") s
  let (_, rest) ← tagName? rest
  Bytes.dropPrefix? (bytes ">") (rest.dropWhile isTagSpace)

/-- What follows the first `closer` in a text. -/
def afterCloser? (closer s : Bytes) : Option Bytes := (Bytes.cutFirst? closer s).map (·.2)

/-- What follows a comment; `<!-->` and `<!--->` are complete ones. -/
def comment? (s : Bytes) : Option Bytes :=
  match Bytes.dropPrefix? (bytes "<!-->") s with
  | some rest => some rest
  | none =>
    match Bytes.dropPrefix? (bytes "<!--->") s with
    | some rest => some rest
    | none => (Bytes.dropPrefix? (bytes "<!--") s).bind (afterCloser? (bytes "-->"))

/-- What follows the raw HTML at the beginning of a text. -/
def rawHtml? (s : Bytes) : Option Bytes :=
  match s with
  | _ :: b :: rest =>
    if Bytes.isAlphanumeric b then openTag? s
    else if b = byte '/' && (rest.head?.map Bytes.isAlphanumeric).getD false then closeTag? s
    else if (bytes "<!--").isPrefixOf s then comment? s
    else if b = byte '?' then afterCloser? (bytes "?>") s
    else if b = byte '!' && (rest.head?.map Bytes.isUpper).getD false then afterCloser? (bytes ">") s
    else if (bytes "<![CDATA[").isPrefixOf s then afterCloser? (bytes "]]>") s
    else none
  | _ => none

end Markdown

end DocPages
