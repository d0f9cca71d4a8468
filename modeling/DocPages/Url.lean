import DocPages.Bytes

/-!
# URL References

A link points at a place by a reference: perhaps a scheme, a path, a query after `?` and a fragment
after `#`.  In paths and fragments a percent sign and two hexadecimal digits stand for a byte.

## Main definitions

- `Url.decode?`, `Url.encodePath`: percent escapes
- `Url.scheme?`: the scheme of a reference
- `Url.relativePath?`: the path of a reference that has no scheme and no host
- `Url.parameter`: the first value of a parameter in a query
-/

namespace DocPages

namespace Url

/-! ## §1 Percent escapes -/

/-- A text with its escapes read; none if a percent sign has no two digits after it. -/
def decode? : Bytes → Option Bytes
  | [] => some []
  | [b] => if b = byte '%' then none else some [b]
  | b :: c :: rest =>
    if b = byte '%' then
      match rest with
      | [] => none
      | d :: rest =>
        match Bytes.hexValue? c, Bytes.hexValue? d with
        | some x, some y => (decode? rest).map ((x * 16 + y).toUInt8 :: ·)
        | _, _ => none
    else (decode? (c :: rest)).map (b :: ·)

/-- Whether a byte stands in a path as it is. -/
def isPathByte (b : UInt8) : Bool := Bytes.isAlphanumeric b || (bytes "-_.~$&+,/:;=@").contains b

/-- A capital hexadecimal digit. -/
def digit (n : Nat) : UInt8 := if n < 10 then (0x30 + n).toUInt8 else (0x37 + n).toUInt8

/-- A path with every other byte escaped. -/
def encodePath (path : Bytes) : Bytes :=
  path.flatMap fun b =>
    if isPathByte b then [b] else [byte '%', digit (b.toNat / 16), digit (b.toNat % 16)]

/-! ## §2 References -/

/-- Whether a text has a control byte. -/
def hasControl (s : Bytes) : Bool := s.any fun b => b < 0x20 || b == 0x7F

/-- What stands before the first colon, if it can be a scheme.  An empty scheme is malformed, and what
    cannot be a scheme is part of the path. -/
inductive Scheme where
  | absent
  | malformed
  | given (name rest : Bytes)
  deriving DecidableEq, Repr

/-- The scheme of a reference. -/
def scheme (s : Bytes) : Scheme :=
  let name := s.takeWhile fun b => Bytes.isAlphanumeric b || b == byte '+' || b == byte '-' || b == byte '.'
  match name, s.drop name.length with
  | [], 0x3A :: _ => .malformed
  | b :: more, 0x3A :: rest => if Bytes.isLetter b then .given (b :: more) rest else .absent
  | _, _ => .absent

/-- The path of a reference that stays on the same site and is relative; none if the reference is
    malformed or points elsewhere. -/
def relativePath? (reference : Bytes) : Option Bytes :=
  let fragmentless := reference.takeWhile (· != byte '#')
  let fragment := reference.drop (fragmentless.length + 1)
  if hasControl fragmentless then none
  else
    match scheme fragmentless with
    | .malformed => none
    | .given _ _ => none
    | .absent =>
      let path := fragmentless.takeWhile (· != byte '?')
      if path.head? == some (byte '/') || (path.takeWhile (· != byte '/')).contains (byte ':') then none
      else
        match decode? path, decode? fragment with
        | some path, some _ => some path
        | _, _ => none

/-! ## §3 Queries -/

/-- A name or a value of a query: a plus sign stands for a space. -/
def decodeQuery? (s : Bytes) : Option Bytes :=
  decode? (s.map fun b => if b = byte '+' then byte ' ' else b)

/-- The parameters of a query; parts with a semicolon or a bad escape are left out. -/
def parameters (query : Bytes) : List (Bytes × Bytes) :=
  (Bytes.splitOn (byte '&') query).filterMap fun part =>
    if part.isEmpty || part.contains (byte ';') then none
    else
      let name := part.takeWhile (· != byte '=')
      match decodeQuery? name, decodeQuery? (part.drop (name.length + 1)) with
      | some name, some value => some (name, value)
      | _, _ => none

/-- The first value of a parameter; empty if it is not given. -/
def parameter (query : Bytes) (name : String) : Bytes :=
  ((parameters query).lookup (bytes name)).getD []

end Url

end DocPages
