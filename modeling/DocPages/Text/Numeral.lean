import DocPages.Bytes

/-!
# Numerals

Settings give numbers and truth values as text.  A decimal integer is a sign and digits.  A prefixed
integer may also be binary (`0b`), octal (`0o` or `0`) or hexadecimal (`0x`), and underscores may
divide its digits.  Integers have 64 bits.

## Main definitions

- `Numeral.decimal`, `Numeral.prefixed`: integers
- `Numeral.truth?`: truth values
-/

namespace DocPages

namespace Numeral

/-- Why a text is no integer. -/
inductive Fault where
  | malformed
  | outOfRange
  deriving DecidableEq, Repr

/-- The wording of a fault. -/
def Fault.message : Fault → Bytes
  | .malformed => bytes "invalid syntax"
  | .outOfRange => bytes "value out of range"

/-- How many numbers a word of 64 bits can hold. -/
def wordCount : Nat := 0x10000000000000000

/-- How many of them are negative when the word has a sign. -/
def wordLimit : Nat := 0x8000000000000000

/-- The value of a digit in any base up to thirty-six. -/
def digitValue? (b : UInt8) : Option Nat :=
  if Bytes.isDigit b then some (b.toNat - 0x30)
  else if Bytes.isLetter b then some ((Bytes.lower b).toNat - 0x57)
  else none

/-- Reads digits after a value; the first fault decides.  Underscores are passed over if they may
    divide digits. -/
def digits (base : Nat) (dividers : Bool) (value : Nat) : Bytes → Except Fault Nat
  | [] => .ok value
  | b :: rest =>
    if dividers && b = byte '_' then digits base dividers value rest
    else
      match digitValue? b with
      | none => .error .malformed
      | some d =>
        if base ≤ d then .error .malformed
        else if wordCount ≤ value * base + d then .error .outOfRange
        else digits base dividers (value * base + d) rest

/-- Whether every underscore stands between two digits; `digit` and `divider` tell what stands just
    before. -/
def dividersPlaced (hexadecimal digit divider : Bool) : Bytes → Bool
  | [] => !divider
  | b :: rest =>
    if Bytes.isDigit b || (hexadecimal && (Bytes.hexValue? b).isSome) then
      dividersPlaced hexadecimal true false rest
    else if b = byte '_' then digit && dividersPlaced hexadecimal false true rest
    else !divider && dividersPlaced hexadecimal false false rest

/-- The sign of a text, and what follows it. -/
def sign (s : Bytes) : Bool × Bytes :=
  match s with
  | 0x2B :: rest => (false, rest)
  | 0x2D :: rest => (true, rest)
  | _ => (false, s)

/-- The integer with a sign and a size, if it has 64 bits. -/
def signed (negative : Bool) (size : Nat) : Except Fault Int :=
  if negative then (if wordLimit < size then .error .outOfRange else .ok (-size))
  else if wordLimit ≤ size then .error .outOfRange
  else .ok size

/-- Reads a decimal integer. -/
def decimal (s : Bytes) : Except Fault Int :=
  let (negative, body) := sign s
  if body.isEmpty then .error .malformed
  else (digits 10 false 0 body).bind (signed negative)

/-- The base that a number without sign is written in, and its digits. -/
def base (s : Bytes) : Nat × Bytes :=
  match s with
  | 0x30 :: c :: rest =>
    let letter := Bytes.lower c
    if rest.isEmpty then (8, c :: rest)
    else if letter = byte 'b' then (2, rest)
    else if letter = byte 'o' then (8, rest)
    else if letter = byte 'x' then (16, rest)
    else (8, c :: rest)
  | 0x30 :: rest => (8, rest)
  | _ => (10, s)

/-- Whether the underscores of a number without sign are well placed. -/
def dividersOk (s : Bytes) : Bool :=
  match s with
  | 0x30 :: c :: rest =>
    let letter := Bytes.lower c
    if letter = byte 'b' || letter = byte 'o' || letter = byte 'x' then
      dividersPlaced (letter = byte 'x') true false rest
    else dividersPlaced false false false s
  | _ => dividersPlaced false false false s

/-- Reads an integer whose base is told by how it begins. -/
def prefixed (s : Bytes) : Except Fault Int :=
  let (negative, body) := sign s
  if body.isEmpty then .error .malformed
  else
    let (b, ds) := base body
    match digits b true 0 ds with
    | .error fault => .error fault
    | .ok size =>
      if body.contains (byte '_') && !dividersOk body then .error .malformed else signed negative size

/-- Reads a truth value. -/
def truth? (s : Bytes) : Option Bool :=
  if ["1", "t", "T", "TRUE", "true", "True"].any fun w => bytes w == s then some true
  else if ["0", "f", "F", "FALSE", "false", "False"].any fun w => bytes w == s then some false
  else none

end Numeral

end DocPages
