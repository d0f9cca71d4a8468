import DocPages.Bytes

/-!
# Characters in Byte Text

A text is read as a sequence of runes: each well-formed UTF-8 sequence is one rune, and each byte
that belongs to none is a rune of its own with the code of U+FFFD.  A rune keeps the bytes it was
read from, so reading characters never loses a byte (`flatMap_raw_runes`).

## Main definitions

- `Rune`, `runes`: the character view of a text
- `encodeRune`: the UTF-8 bytes of a code point
-/

namespace DocPages

/-- One character of a text: its code point and the bytes it was read from. -/
structure Rune where
  /-- The code point; U+FFFD for a byte that is not part of UTF-8. -/
  code : Nat
  /-- The bytes of the text that hold it. -/
  raw : Bytes
  deriving DecidableEq, Repr, Inhabited

namespace Utf8

/-- The code point that stands for a malformed byte. -/
def replacement : Nat := 0xFFFD

/-- A byte that continues a multi-byte sequence. -/
def isTail (b : UInt8) : Bool := 0x80 ≤ b && b ≤ 0xBF

/-- The low six bits of a continuation byte. -/
def tailBits (b : UInt8) : Nat := b.toNat % 64

/-- The rune that starts with byte `a` before `rest`: its code and the number of bytes of `rest`
    that belong to it, or nothing when `a` starts no well-formed sequence. -/
def lead? (a : UInt8) (rest : Bytes) : Option (Nat × Nat) :=
  if a < 0x80 then some (a.toNat, 0)
  else if a < 0xC2 then none
  else if a < 0xE0 then
    match rest with
    | b :: _ => if isTail b then some (a.toNat % 32 * 64 + tailBits b, 1) else none
    | _ => none
  else if a < 0xF0 then
    match rest with
    | b :: c :: _ =>
      let low : UInt8 := if a = 0xE0 then 0xA0 else 0x80
      let high : UInt8 := if a = 0xED then 0x9F else 0xBF
      if low ≤ b && b ≤ high && isTail c then
        some ((a.toNat % 16 * 64 + tailBits b) * 64 + tailBits c, 2)
      else none
    | _ => none
  else if a < 0xF5 then
    match rest with
    | b :: c :: d :: _ =>
      let low : UInt8 := if a = 0xF0 then 0x90 else 0x80
      let high : UInt8 := if a = 0xF4 then 0x8F else 0xBF
      if low ≤ b && b ≤ high && isTail c && isTail d then
        some (((a.toNat % 8 * 64 + tailBits b) * 64 + tailBits c) * 64 + tailBits d, 3)
      else none
    | _ => none
  else none

/-- The runes of a text after its first `skip` bytes. -/
def runesFrom : Nat → Bytes → List Rune
  | _, [] => []
  | skip + 1, _ :: rest => runesFrom skip rest
  | 0, a :: rest =>
    match lead? a rest with
    | some (code, more) => ⟨code, a :: rest.take more⟩ :: runesFrom more rest
    | none => ⟨replacement, [a]⟩ :: runesFrom 0 rest

end Utf8

/-- The runes of a text, in order. -/
def runes (s : Bytes) : List Rune := Utf8.runesFrom 0 s

/-- The bytes of a sequence of runes. -/
def unrunes (rs : List Rune) : Bytes := rs.flatMap Rune.raw

namespace Rune

/-- A rune that stands for a byte outside UTF-8. -/
def isMalformed (r : Rune) : Bool := r.code == Utf8.replacement && r.raw.length == 1

end Rune

/-- The first rune of a text and what follows it. -/
def firstRune? : Bytes → Option (Rune × Bytes)
  | [] => none
  | a :: rest =>
    match Utf8.lead? a rest with
    | some (code, more) => some (⟨code, a :: rest.take more⟩, rest.drop more)
    | none => some (⟨Utf8.replacement, [a]⟩, rest)

/-- The UTF-8 bytes of a code point; what is no code point is written as U+FFFD. -/
def encodeRune (c : Nat) : Bytes :=
  if c < 0x80 then [c.toUInt8]
  else if c < 0x800 then [(0xC0 + c / 64).toUInt8, (0x80 + c % 64).toUInt8]
  else if 0xD800 ≤ c && c < 0xE000 || 0x110000 ≤ c then [0xEF, 0xBF, 0xBD]
  else if c < 0x10000 then
    [(0xE0 + c / 4096).toUInt8, (0x80 + c / 64 % 64).toUInt8, (0x80 + c % 64).toUInt8]
  else
    [(0xF0 + c / 262144).toUInt8, (0x80 + c / 4096 % 64).toUInt8, (0x80 + c / 64 % 64).toUInt8,
      (0x80 + c % 64).toUInt8]

/-! ## Small facts -/

theorem Utf8.flatMap_raw_runesFrom (n : Nat) (s : Bytes) :
    (runesFrom n s).flatMap Rune.raw = s.drop n := by
  induction s generalizing n with
  | nil => simp [runesFrom]
  | cons a rest ih =>
    cases n with
    | succ skip => simp [runesFrom, ih]
    | zero =>
      simp only [runesFrom]
      split
      · simp [ih]
      · simp [ih]

/-- Reading a text as runes loses nothing. -/
theorem flatMap_raw_runes (s : Bytes) : unrunes (runes s) = s := by
  simp [unrunes, runes, Utf8.flatMap_raw_runesFrom]

end DocPages
