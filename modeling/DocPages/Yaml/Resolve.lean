import DocPages.Text.Numeral
import DocPages.Yaml.Scalar

/-!
# What a YAML Scalar Reads As

A plain scalar without a tag is null, a truth value, an integer, a number with a fraction, a time or
else a text.  A tag asks for one of these kinds; a scalar that does not read so is then a fault.

Numbers with a fraction are needed only where an integer is wanted, so they are kept as the integer
part of the nearest binary number with 53 digits.

## Main definitions

- `Yaml.Value`: what a scalar reads as
- `Yaml.resolvePlain`, `Yaml.resolve`: reading a scalar
-/

namespace DocPages

namespace Yaml

/-! ## §1 Tags -/

namespace Tag

/-- The tag of null. -/
def null : Bytes := bytes "!!null"
/-- The tag of truth values. -/
def truth : Bytes := bytes "!!bool"
/-- The tag of texts. -/
def text : Bytes := bytes "!!str"
/-- The tag of integers. -/
def integer : Bytes := bytes "!!int"
/-- The tag of numbers with a fraction. -/
def fraction : Bytes := bytes "!!float"
/-- The tag of times. -/
def time : Bytes := bytes "!!timestamp"
/-- The tag of sequences. -/
def sequence : Bytes := bytes "!!seq"
/-- The tag of mappings. -/
def mapping : Bytes := bytes "!!map"
/-- The tag of bytes in base 64. -/
def binary : Bytes := bytes "!!binary"
/-- The tag of the key whose value is merged into its mapping. -/
def merge : Bytes := bytes "!!merge"

end Tag

/-- The short form of a tag. -/
def shortTag (tag : Bytes) : Bytes :=
  match Bytes.dropPrefix? (bytes "tag:yaml.org,2002:") tag with
  | some rest => bytes "!!" ++ rest
  | none => tag

/-! ## §2 Values -/

/-- What a scalar reads as. -/
inductive Value where
  | null
  | truth (b : Bool)
  | integer (n : Int)
  /-- A number with a fraction: its integer part, if that has 64 bits. -/
  | fraction (n : Option Int)
  | time
  | text (s : Bytes)
  /-- A text under a tag of its own. -/
  | tagged (tag s : Bytes)
  deriving DecidableEq, Repr

/-- The tag of a value. -/
def Value.tag : Value → Bytes
  | .null => Tag.null
  | .truth _ => Tag.truth
  | .integer _ => Tag.integer
  | .fraction _ => Tag.fraction
  | .time => Tag.time
  | .text _ => Tag.text
  | .tagged tag _ => tag

/-! ## §3 Numbers with a fraction -/

/-- The nearest natural number to a quotient; a half goes to the even neighbour. -/
def nearest (num den : Nat) : Nat :=
  let q := num / den
  let twice := 2 * (num % den)
  if den < twice || (twice == den && q % 2 == 1) then q + 1 else q

/-- The nearest binary number with 53 digits to a quotient, as a natural number and a power of two. -/
def nearestBinary (num den : Nat) : Nat × Int :=
  let guess : Int := (Nat.log2 num : Int) - (Nat.log2 den : Int)
  let scaled (k : Int) : Nat × Nat :=
    if 0 ≤ k then (num, den <<< k.toNat) else (num <<< (-k).toNat, den)
  let k := guess - 53
  let (n, d) := scaled k
  let k := if n / d < 1 <<< 53 then k else k + 1
  let (n, d) := scaled k
  (nearest n d, k)

/-- The integer part that a number has as a 64-bit word: too large a size has none, and too small a
    number has the smallest word. -/
def wordOf (negative : Bool) (size : Nat) : Option Int :=
  if negative then some (if Numeral.wordLimit ≤ size then -Numeral.wordLimit else -(size : Int))
  else if size < Numeral.wordLimit then some size
  else if size == Numeral.wordLimit then some (-Numeral.wordLimit)
  else none

/-- The number `digits · 10 ^ exponent`, unless it is too large for a binary exponent of ten digits. -/
def fraction? (negative : Bool) (digits : Nat) (exponent : Int) : Option Value :=
  let count : Int := (Nat.toDigits 10 digits).length
  if digits == 0 || exponent + count < -400 then some (.fraction (some 0))
  else if 400 < exponent + count then none
  else
    let (num, den) : Nat × Nat :=
      if 0 ≤ exponent then (digits * Nat.pow 10 exponent.toNat, 1)
      else (digits, Nat.pow 10 (-exponent).toNat)
    let (m, k) := nearestBinary num den
    if 0 ≤ k && 1 <<< 1024 ≤ m <<< k.toNat then none
    else some (.fraction (wordOf negative (if 0 ≤ k then m <<< k.toNat else m >>> (-k).toNat)))

/-- The value of decimal digits. -/
def digitsValue (s : Bytes) : Nat := s.foldl (fun n b => n * 10 + (b.toNat - 0x30)) 0

/-- The exponent of a number, and nothing for an empty text; anything else is no exponent. -/
def exponent? (s : Bytes) : Option Int :=
  match s with
  | [] => some 0
  | e :: rest =>
    if Bytes.lower e != byte 'e' then none
    else
      let (negative, digits) := Numeral.sign rest
      if digits.isEmpty || !digits.all Bytes.isDigit then none
      else some (if negative then -(digitsValue digits) else digitsValue digits)

/-- Reads a number with a fraction: digits with at most one dot among them, and an exponent. -/
def readFraction? (s : Bytes) : Option Value :=
  let (negative, body) := Numeral.sign s
  let whole := body.takeWhile Bytes.isDigit
  let rest := body.drop whole.length
  let (part, rest) := match rest with
    | 0x2E :: more => (more.takeWhile Bytes.isDigit, more.dropWhile Bytes.isDigit)
    | _ => ([], rest)
  if whole.isEmpty && part.isEmpty then none
  else (exponent? rest).bind fun e => fraction? negative (digitsValue (whole ++ part)) (e - part.length)

/-! ## §4 Times -/

/-- Reads one or two digits below a limit. -/
def oneOrTwo? (limit : Nat) (s : Bytes) : Option (Nat × Bytes) :=
  let digits := (s.take 2).takeWhile Bytes.isDigit
  let value := digitsValue digits
  if digits.isEmpty || limit ≤ value then none else some (value, s.drop digits.length)

/-- Passes one byte. -/
def expect? (b : UInt8) (s : Bytes) : Option Bytes := Bytes.dropPrefix? [b] s

/-- The number of days of a month. -/
def daysIn (year month : Nat) : Nat :=
  if month == 2 then
    (if year % 4 == 0 && (year % 100 != 0 || year % 400 == 0) then 29 else 28)
  else if [4, 6, 9, 11].contains month then 30 else 31

/-- Passes a date. -/
def date? (s : Bytes) : Option Bytes := do
  let year := s.takeWhile Bytes.isDigit
  if year.length != 4 then none
  let s ← expect? (byte '-') (s.drop 4)
  let (month, s) ← oneOrTwo? 13 s
  let s ← expect? (byte '-') s
  let (day, s) ← oneOrTwo? 32 s
  if month == 0 || day == 0 || daysIn (digitsValue year) month < day then none
  pure s

/-- Passes a time of day with an optional fraction of a second. -/
def clock? (s : Bytes) : Option Bytes := do
  let (_, s) ← oneOrTwo? 24 s
  let s ← expect? (byte ':') s
  let (_, s) ← oneOrTwo? 60 s
  let s ← expect? (byte ':') s
  let (_, s) ← oneOrTwo? 60 s
  match s with
  | dot :: d :: rest =>
    if (dot == byte '.' || dot == byte ',') && Bytes.isDigit d then rest.dropWhile Bytes.isDigit
    else pure s
  | _ => pure s

/-- Whether a text is a time zone: the letter Z, or a sign, hours and minutes. -/
def isZone (s : Bytes) : Bool :=
  match s with
  | [0x5A] => true
  | [sign, a, b, colon, c, d] =>
    (sign == byte '+' || sign == byte '-') && colon == byte ':'
      && [a, b, c, d].all Bytes.isDigit && digitsValue [a, b] ≤ 24 && digitsValue [c, d] ≤ 60
  | _ => false

/-- Whether a text is a date, or a date with a time of day. -/
def isTime (s : Bytes) : Bool :=
  match date? s with
  | some [] => true
  | some (mark :: rest) =>
    match clock? rest with
    | some after =>
      if mark == byte 'T' || mark == byte 't' then isZone after
      else mark == byte ' ' && after.isEmpty
    | none => false
  | none => false

/-! ## §5 Resolution -/

/-- Words with a fixed meaning. -/
def word? (s : Bytes) : Option Value :=
  let is (words : List String) : Bool := words.any fun w => bytes w == s
  if is ["", "~", "null", "Null", "NULL"] then some .null
  else if is ["true", "True", "TRUE"] then some (.truth true)
  else if is ["false", "False", "FALSE"] then some (.truth false)
  else if is [".nan", ".NaN", ".NAN", ".inf", ".Inf", ".INF", "+.inf", "+.Inf", "+.INF"] then
    some (.fraction none)
  else if is ["-.inf", "-.Inf", "-.INF"] then some (.fraction (some (-Numeral.wordLimit)))
  else none

/-- Reads digits of a base with an optional minus sign; underscores have been taken out. -/
def based? (base : Nat) (s : Bytes) : Option Int :=
  let (negative, body) := Numeral.sign s
  if body.isEmpty then none
  else
    match Numeral.digits base false 0 body with
    | .ok size => if negative then (Numeral.signed true size).toOption else some size
    | .error _ => none

/-- Reads an integer of at most 64 bits, with a sign or without. -/
def integer? (s : Bytes) : Option Int :=
  match Numeral.prefixed s with
  | .ok n => some n
  | .error _ =>
    if s.head? == some 0x2B || s.head? == some 0x2D then none
    else
      let (b, ds) := Numeral.base s
      if ds.isEmpty then none
      else (Numeral.digits b false 0 ds).toOption.map fun n => (n : Int)

/-- Reads an integer whose sign follows the mark of its base. -/
def signedAfterBase? (s : Bytes) : Option Int :=
  [("0b", 2, ""), ("-0b", 2, "-"), ("0o", 8, ""), ("-0o", 8, "-")].findSome? fun (mark, base, sign) =>
    (Bytes.dropPrefix? (bytes mark) s).bind fun rest => based? base (bytes sign ++ rest)

/-- Reads a number: an integer, or a number with a fraction. -/
def number? (s : Bytes) : Option Value :=
  let digits := s.filter (· != byte '_')
  match integer? digits with
  | some n => some (.integer n)
  | none =>
    match readFraction? digits with
    | some v => some v
    | none => (signedAfterBase? digits).map .integer

/-- Reads a scalar as the kind its text suggests.  A time is looked for only if `times` says so. -/
def resolveText (times : Bool) (s : Bytes) : Value :=
  match word? s with
  | some v => v
  | none =>
    match s with
    | [] => .null
    | first :: _ =>
      if first == byte '.' then (readFraction? s).getD (.text s)
      else if Bytes.isDigit first || first == byte '+' || first == byte '-' then
        if times && isTime s then .time else (number? s).getD (.text s)
      else .text s

/-- Reads a plain scalar without a tag. -/
def resolvePlain (s : Bytes) : Value := resolveText true s

/-- The tags that say how a scalar is to be read. -/
def isResolvable (tag : Bytes) : Bool :=
  [Tag.text, Tag.truth, Tag.integer, Tag.fraction, Tag.null, Tag.time].contains tag

/-- Reads a scalar under a tag. -/
def resolve (tag s : Bytes) : Except Fault Value :=
  if !isResolvable tag then .ok (.tagged tag s)
  else if tag == Tag.text then .ok (.text s)
  else
    let v := resolveText (tag == Tag.time) s
    if v.tag == tag then .ok v
    else
      match v with
      | .integer n =>
        if tag == Tag.fraction && decide (n < Numeral.wordLimit) then .ok (.fraction (some n))
        else .error (.anywhere (.undecodable v.tag s tag))
      | _ => .error (.anywhere (.undecodable v.tag s tag))

/-! ## §6 Base 64 -/

/-- The value of a digit of base 64. -/
def sextet? (b : UInt8) : Option Nat :=
  if Bytes.isUpper b then some (b.toNat - 0x41)
  else if Bytes.isLower b then some (b.toNat - 0x61 + 26)
  else if Bytes.isDigit b then some (b.toNat - 0x30 + 52)
  else if b == byte '+' then some 62
  else if b == byte '/' then some 63
  else none

/-- Reads base 64 in groups of four; only the last group may end in equals signs. -/
def base64Groups? : Bytes → Option Bytes
  | [] => some []
  | [a, b, 0x3D, 0x3D] => do
    let n := (← sextet? a) * 64 + (← sextet? b)
    pure [(n / 16).toUInt8]
  | [a, b, c, 0x3D] => do
    let n := ((← sextet? a) * 64 + (← sextet? b)) * 64 + (← sextet? c)
    pure [(n / 1024).toUInt8, (n / 4 % 256).toUInt8]
  | a :: b :: c :: d :: rest => do
    let n := (((← sextet? a) * 64 + (← sextet? b)) * 64 + (← sextet? c)) * 64 + (← sextet? d)
    let more ← base64Groups? rest
    pure ([(n / 65536).toUInt8, (n / 256 % 256).toUInt8, (n % 256).toUInt8] ++ more)
  | _ => none

/-- Reads base 64; line breaks count for nothing. -/
def base64? (s : Bytes) : Option Bytes :=
  base64Groups? (s.filter fun b => b != 0x0A && b != 0x0D)

end Yaml

end DocPages
