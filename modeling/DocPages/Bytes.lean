/-!
# Byte Text

Everything the library reads or writes is a sequence of bytes: comments, keys, paths and pages are
usually UTF-8, but nothing checks that they are, so no operation may lose or repair a byte.

This module has the operations on bytes that do not look at characters: cutting at a marker,
splitting at a separator, joining, counting and decimal numerals.

## Main definitions

- `Bytes`, `bytes`: the type and its literals
- `dropPrefix?`, `dropSuffix?`: cutting a known beginning or end
- `cutFirst?`, `cutLast?`: cutting around the first or last occurrence of a marker
- `splitOn`: the pieces between the occurrences of one byte
- `decimal`: integers in base ten
-/

namespace DocPages

/-- Text as the library sees it: bytes, usually but not always UTF-8. -/
abbrev Bytes := List UInt8

/-- The UTF-8 bytes of a string literal. -/
def bytes (s : String) : Bytes := s.toByteArray.data.toList

/-- The byte of an ASCII character. -/
def byte (c : Char) : UInt8 := c.toNat.toUInt8

namespace Bytes

/-! ## §1 Character classes of ASCII -/

/-- An ASCII capital letter. -/
def isUpper (b : UInt8) : Bool := 0x41 ≤ b && b ≤ 0x5A

/-- An ASCII small letter. -/
def isLower (b : UInt8) : Bool := 0x61 ≤ b && b ≤ 0x7A

/-- An ASCII letter of either case. -/
def isLetter (b : UInt8) : Bool := isUpper b || isLower b

/-- An ASCII decimal digit. -/
def isDigit (b : UInt8) : Bool := 0x30 ≤ b && b ≤ 0x39

/-- An ASCII letter or digit. -/
def isAlphanumeric (b : UInt8) : Bool := isLetter b || isDigit b

/-- The small form of an ASCII capital; every other byte is its own small form. -/
def lower (b : UInt8) : UInt8 := if isUpper b then b + 0x20 else b

/-- The value of a hexadecimal digit of either case. -/
def hexValue? (b : UInt8) : Option Nat :=
  if isDigit b then some (b.toNat - 0x30)
  else if 0x61 ≤ b && b ≤ 0x66 then some (b.toNat - 0x57)
  else if 0x41 ≤ b && b ≤ 0x46 then some (b.toNat - 0x37)
  else none

/-! ## §2 Cutting -/

/-- What follows `p` in a text that begins with `p`. -/
def dropPrefix? : Bytes → Bytes → Option Bytes
  | [], s => some s
  | _ :: _, [] => none
  | a :: p, b :: s => if a = b then dropPrefix? p s else none

/-- What precedes `p` in a text that ends with `p`. -/
def dropSuffix? (p s : Bytes) : Option Bytes :=
  (dropPrefix? p.reverse s.reverse).map List.reverse

/-- The text without the beginning `p`, or unchanged when it does not begin so. -/
def trimPrefix (p s : Bytes) : Bytes := (dropPrefix? p s).getD s

/-- The text without the ending `p`, or unchanged when it does not end so. -/
def trimSuffix (p s : Bytes) : Bytes := (dropSuffix? p s).getD s

/-- The text without the trailing bytes that satisfy `p`. -/
def dropEndWhile (p : UInt8 → Bool) (s : Bytes) : Bytes := (s.reverse.dropWhile p).reverse

/-- The parts before and after the first occurrence of `m`. -/
def cutFirst? (m : Bytes) : Bytes → Option (Bytes × Bytes)
  | [] => if m.isEmpty then some ([], []) else none
  | b :: s =>
    match dropPrefix? m (b :: s) with
    | some rest => some ([], rest)
    | none => (cutFirst? m s).map fun (before, after) => (b :: before, after)

/-- The parts before and after the last occurrence of `m`. -/
def cutLast? (m : Bytes) : Bytes → Option (Bytes × Bytes)
  | [] => if m.isEmpty then some ([], []) else none
  | b :: s =>
    match cutLast? m s with
    | some (before, after) => some (b :: before, after)
    | none => (dropPrefix? m (b :: s)).map fun rest => ([], rest)

/-- Whether `m` occurs in the text. -/
def includes (m s : Bytes) : Bool := (cutFirst? m s).isSome

/-- The text with the first occurrence of `m` replaced by `r`. -/
def replaceFirst (m r s : Bytes) : Bytes :=
  match cutFirst? m s with
  | some (before, after) => before ++ r ++ after
  | none => s

/-! ## §3 Splitting and joining -/

/-- The pieces between the occurrences of `sep`; there is always one more piece than occurrences. -/
def splitOn (sep : UInt8) : Bytes → List Bytes
  | [] => [[]]
  | b :: s =>
    if b = sep then [] :: splitOn sep s
    else
      match splitOn sep s with
      | [] => [[b]]
      | piece :: more => (b :: piece) :: more

/-- The pieces with `sep` between neighbours. -/
def join (sep : Bytes) : List Bytes → Bytes
  | [] => []
  | [piece] => piece
  | piece :: more => piece ++ sep ++ join sep more

/-- The lines of a text, each with its newline; only the last may lack one, and none is empty. -/
def linesKeepingEnds : Bytes → List Bytes
  | [] => []
  | b :: s =>
    if b = 0x0A then [b] :: linesKeepingEnds s
    else
      match linesKeepingEnds s with
      | [] => [[b]]
      | line :: more => (b :: line) :: more

/-- `n` copies of one byte. -/
def fill (n : Nat) (b : UInt8) : Bytes := List.replicate n b

/-! ## §4 Order and numerals -/

/-- Byte-wise order, a proper beginning before its continuations. -/
def lt : Bytes → Bytes → Bool
  | _, [] => false
  | [], _ :: _ => true
  | a :: s, b :: t => a < b || (a = b && lt s t)

/-- Byte-wise order with equality, for stable sorting. -/
def le (s t : Bytes) : Bool := !lt t s

/-- The digits of a natural number in base ten, most significant first. -/
def decimalNat (n : Nat) : Bytes := (Nat.toDigits 10 n).map byte

/-- An integer in base ten, with a sign only when negative. -/
def decimal (n : Int) : Bytes :=
  if n < 0 then byte '-' :: decimalNat n.natAbs else decimalNat n.natAbs

/-- The digit of a value below sixteen, in small letters. -/
def hexDigit (n : Nat) : UInt8 := if n < 10 then (0x30 + n).toUInt8 else (0x57 + n).toUInt8

/-- Two hexadecimal digits of a byte, in small letters. -/
def hexByte (b : UInt8) : Bytes := [hexDigit (b.toNat / 16), hexDigit (b.toNat % 16)]

/-- The hexadecimal form of a text, two digits a byte. -/
def hex (s : Bytes) : Bytes := s.flatMap hexByte

end Bytes

end DocPages
