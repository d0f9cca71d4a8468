import DocPages.Markdown.Characters

/-!
# Addresses in Running Text

An address becomes a link without further markup: in angle brackets, or bare when it begins with
`http:`, `https:`, `ftp:` or `www.`, or is a mail address.  A bare address does not include the
punctuation that ends a sentence, nor a parenthesis that it does not open.

## Main definitions

- `Address`: the text of an address and how to reach it
- `angleAddress?`: an address in angle brackets
- `bareAddress?`: an address in running text
-/

namespace DocPages

namespace Markdown

/-- How the link of an address is made from its text. -/
inductive AddressKind where
  /-- The text is the link. -/
  | url
  /-- The text lacks its scheme. -/
  | web
  /-- The text is a mail address. -/
  | mail
  deriving DecidableEq, Repr

/-- An address that is a link by itself. -/
structure Address where
  kind : AddressKind
  text : Bytes
  deriving DecidableEq, Repr

namespace Address

/-- Where the link of an address goes. -/
def target (a : Address) : Bytes :=
  match a.kind with
  | .url => a.text
  | .web => bytes "http://" ++ a.text
  | .mail =>
    if (bytes "mailto:").isPrefixOf (a.text.map Bytes.lower) then a.text
    else bytes "mailto:" ++ a.text

end Address

/-! ## §1 Mail addresses -/

/-- A byte of the part of a mail address before its `@`. -/
def isMailboxByte (b : UInt8) : Bool :=
  Bytes.isAlphanumeric b || (bytes ".!#$%&'*+/=?^_`\x7b|\x7d~-").contains b

/-- The length of a domain label at the beginning of a text: letters, digits and inner hyphens, at
    most 63 of them. -/
def labelLength (s : Bytes) : Nat :=
  let run := (s.takeWhile fun b => Bytes.isAlphanumeric b || b == byte '-').take 63
  match run with
  | [] => 0
  | b :: _ =>
    if Bytes.isAlphanumeric b then (Bytes.dropEndWhile (· == byte '-') run).length else 0

/-- The length of labels joined by dots; `fuel` bounds their number. -/
def domainLength : Nat → Bytes → Nat
  | 0, _ => 0
  | fuel + 1, s =>
    let n := labelLength s
    if n = 0 then 0
    else
      match s.drop n with
      | b :: rest =>
        if b = byte '.' then
          let more := domainLength fuel rest
          if more = 0 then n else n + 1 + more
        else n
      | [] => n

/-- The length of a mail address at the beginning of a text. -/
def mailLength? (s : Bytes) : Option Nat :=
  let box := s.takeWhile isMailboxByte
  if box.isEmpty then none
  else
    match s.drop box.length with
    | b :: rest =>
      if b = byte '@' then
        let n := domainLength rest.length rest
        if n = 0 then none else some (box.length + 1 + n)
      else none
    | [] => none

/-! ## §2 Addresses in angle brackets -/

/-- A byte of a scheme after its first. -/
def isSchemeByte (b : UInt8) : Bool :=
  Bytes.isAlphanumeric b || b == byte '+' || b == byte '.' || b == byte '-'

/-- The length of an absolute address: a scheme of 2 to 32 bytes, a colon, and anything but spaces,
    controls and angle brackets. -/
def urlLength? (s : Bytes) : Option Nat :=
  match s with
  | [] => none
  | b :: rest =>
    let scheme := rest.takeWhile isSchemeByte
    match rest.drop scheme.length with
    | c :: after =>
      if Bytes.isLetter b && c = byte ':' && 1 ≤ scheme.length && scheme.length ≤ 31 then
        let tail := after.takeWhile fun d => !(d ≤ 0x20 || d == 0x7F || d == byte '<' || d == byte '>')
        some (2 + scheme.length + tail.length)
      else none
    | [] => none

/-- Reads an address in angle brackets and gives what follows it. -/
def angleAddress? (s : Bytes) : Option (Address × Bytes) :=
  match s with
  | [] => none
  | _ :: inside =>
    let found :=
      match mailLength? inside with
      | some n => some (AddressKind.mail, n)
      | none => (urlLength? inside).map fun n => (.url, n)
    match found with
    | some (kind, n) =>
      (Bytes.dropPrefix? (bytes ">") (inside.drop n)).map fun rest => (⟨kind, inside.take n⟩, rest)
    | none => none

/-! ## §3 Bare addresses -/

/-- A byte of the host of a bare address. -/
def isHostByte (b : UInt8) : Bool :=
  Bytes.isAlphanumeric b || (bytes "-@:%._+~#=").contains b

/-- A byte of what follows the host of a bare address. -/
def isPathByte (b : UInt8) : Bool :=
  Bytes.isAlphanumeric b || (bytes "-@:%_+.~#!?&/=();,'\">^\x7b\x7d[]`").contains b

/-- The length of the longest beginning, at most `limit` bytes long and not empty, that a dot and a
    small letter follow. -/
def hostStem? (s : Bytes) : Nat → Option Nat
  | 0 => none
  | n + 1 =>
    match s.drop (n + 1) with
    | d :: c :: _ => if d = byte '.' && Bytes.isLower c then some (n + 1) else hostStem? s n
    | _ => hostStem? s n

/-- The length of a host with its last label. -/
def hostLength? (s : Bytes) : Option Nat :=
  let run := s.takeWhile isHostByte
  (hostStem? s (min 256 run.length)).map fun n =>
    n + 1 + ((s.drop (n + 1)).takeWhile Bytes.isLower).length

/-- The length of a port with its colon, zero when there is none. -/
def portLength (s : Bytes) : Nat :=
  match s with
  | b :: rest =>
    if b = byte ':' then
      let digits := rest.takeWhile Bytes.isDigit
      if digits.isEmpty then 0 else digits.length + 1
    else 0
  | [] => 0

/-- The length of a path, query or fragment, zero when there is none. -/
def pathLength (ok : UInt8 → Bool) (s : Bytes) : Nat :=
  match s with
  | b :: rest =>
    if b = byte '/' || b = byte '#' || b = byte '?' then 1 + (rest.takeWhile ok).length else 0
  | [] => 0

/-- The length of a bare address with a scheme. -/
def schemeAddressLength? (s : Bytes) : Option Nat :=
  let withScheme := fun (scheme : Bytes) =>
    (Bytes.dropPrefix? scheme s).bind fun rest =>
      (hostLength? rest).map fun n =>
        let rest := rest.drop n
        let port := portLength rest
        scheme.length + n + port +
          pathLength (fun b => isPathByte b || b == byte '$') (rest.drop port)
  (withScheme (bytes "http://")).or
    ((withScheme (bytes "https://")).or (withScheme (bytes "ftp://")))

/-- The length of a bare address that begins with `www.`. -/
def webAddressLength? (s : Bytes) : Option Nat :=
  (Bytes.dropPrefix? (bytes "www.") s).bind fun rest =>
    (hostLength? rest).map fun n => 4 + n + pathLength isPathByte (rest.drop n)

/-- The length of an address without a closing parenthesis too many, a final dot, or a character
    reference at its end. -/
def trimAddress (s : Bytes) (n : Nat) : Nat :=
  let text := s.take n
  match text.getLast? with
  | none => n
  | some last =>
    if last = byte '.' then n - 1
    else if last = byte ')' then
      n - (text.count (byte ')') - text.count (byte '('))
    else if last = byte ';' then
      let name := (text.dropLast.reverse.takeWhile Bytes.isAlphanumeric)
      match text.dropLast.reverse.drop name.length with
      | b :: before => if !name.isEmpty && b = byte '&' then before.length else n
      | [] => n
    else n

/-- Punctuation that does not end an address. -/
def isTrailingMark (b : UInt8) : Bool := (bytes "?!.,:*_~").contains b

/-- The length of an address without punctuation at its end; its first byte always stays. -/
def trimMarks (s : Bytes) (n : Nat) : Nat :=
  match s.take n with
  | [] => n
  | _ :: rest => 1 + (Bytes.dropEndWhile isTrailingMark rest).length

/-- The length of a bare mail address: its domain has a dot, and neither a hyphen nor an underscore
    follows. -/
def bareMailLength? (s : Bytes) : Option Nat :=
  match s with
  | [] => none
  | b :: _ =>
    if isMark b then none
    else
      (mailLength? s).bind fun n =>
        let domain := ((s.take (n - 1)).dropWhile (· != byte '@'))
        if !domain.contains (byte '.') then none
        else
          match s.drop n with
          | c :: _ => if c = byte '-' || c = byte '_' then none else some n
          | [] => some n

/-- Reads an address at the beginning of running text and gives what follows it. -/
def bareAddress? (s : Bytes) : Option (Address × Bytes) :=
  let found :=
    match schemeAddressLength? s with
    | some n => some (AddressKind.url, trimAddress s n)
    | none =>
      match webAddressLength? s with
      | some n => some (.web, trimAddress s n)
      | none => (bareMailLength? s).map fun n => (.mail, n)
  found.map fun (kind, n) =>
    let n := trimMarks s n
    (⟨kind, s.take n⟩, s.drop n)

end Markdown

end DocPages
