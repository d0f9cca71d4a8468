import Mathlib.Data.List.Forall2
import DocPages.Json.Text
import DocPages.Proofs.ByteText
import DocPages.Proofs.Trimming

/-!
# Reading JSON

A reader of JSON takes one value from the front of a text and leaves the rest.  It knows nothing of how
the text was written: escapes are read in strings, numbers are added up from their digits, and a comma
has to stand between two values and nowhere else.

What is written as JSON is read back in front of any rest that does not go on with a digit.  In texts
every malformed byte has become U+FFFD, and nothing else has changed.

## Main definitions

- `Json.Value`, `Json.readValue`, `Json.readLine`: values and their reader
- `Json.legible`: what a text is read as
- `Json.Reads`: bytes that stand for a value

## Main results

- `encodeRune_code`: a well-formed sequence is the encoding of its code
- `Json.reads_text`, `Json.reads_number`, `Json.reads_array`, `Json.reads_object`: what is written is
  read back
-/

namespace DocPages

namespace Json

/-! ## §1 The reader -/

/-- A value of JSON.  Numbers are whole, and members keep their order. -/
inductive Value where
  | number (n : Int)
  | text (s : Bytes)
  | array (values : List Value)
  | object (members : List (Bytes × Value))
  deriving Repr

/-- Where the reader of a string stands: in the text, behind a backslash, or among the digits of an
    escape, of which some are left. -/
inductive Place where
  | plain
  | escaped
  | digits (left value : Nat)
  deriving DecidableEq, Repr

/-- The character that stands behind a backslash. -/
def escape? (b : UInt8) : Option UInt8 :=
  if b = byte '"' ∨ b = byte '\\' ∨ b = byte '/' then some b
  else if b = byte 'b' then some 0x08
  else if b = byte 'f' then some 0x0C
  else if b = byte 'n' then some 0x0A
  else if b = byte 'r' then some 0x0D
  else if b = byte 't' then some 0x09
  else none

/-- A text that goes on after some bytes. -/
def before (x : Bytes) (read : Option (Bytes × Bytes)) : Option (Bytes × Bytes) :=
  read.map fun r => (x ++ r.1, r.2)

/-- Reads a string up to its closing quote, and gives the text and the rest.  A control character has to
    be escaped. -/
def readText : Place → Bytes → Option (Bytes × Bytes)
  | _, [] => none
  | .plain, b :: s =>
    if b = byte '"' then some ([], s)
    else if b = byte '\\' then readText .escaped s
    else if b < 0x20 then none
    else before [b] (readText .plain s)
  | .escaped, b :: s =>
    if b = byte 'u' then readText (.digits 3 0) s
    else (escape? b).bind fun c => before [c] (readText .plain s)
  | .digits left value, b :: s =>
    (Bytes.hexValue? b).bind fun d =>
      match left with
      | 0 => before (encodeRune (16 * value + d)) (readText .plain s)
      | left + 1 => readText (.digits left (16 * value + d)) s

/-- The number that digits in base ten stand for. -/
def numeral (digits : Bytes) : Nat := digits.foldl (fun n b => 10 * n + (b.toNat - 0x30)) 0

/-- Reads a number without a sign. -/
def readNatural (s : Bytes) : Option (Nat × Bytes) :=
  if (s.takeWhile Bytes.isDigit).isEmpty then none
  else some (numeral (s.takeWhile Bytes.isDigit), s.dropWhile Bytes.isDigit)

/-- Reads a number. -/
def readNumber : Bytes → Option (Int × Bytes)
  | [] => none
  | b :: s =>
    if b = byte '-' then (readNatural s).map fun r => (-(r.1 : Int), r.2)
    else (readNatural (b :: s)).map fun r => ((r.1 : Int), r.2)

section Lists

variable {α : Type} (closing : UInt8) (item : Bytes → Option (α × Bytes))

/-- Reads at most so many items with commas between them, up to the byte that closes the list. -/
def readItems : Nat → Bytes → Option (List α × Bytes)
  | 0, _ => none
  | count + 1, s =>
    (item s).bind fun r =>
      match r.2 with
      | [] => none
      | b :: rest =>
        if b = byte ',' then (readItems count rest).map fun more => (r.1 :: more.1, more.2)
        else if b = closing then some ([r.1], rest)
        else none

/-- Reads a list of items, which may be empty. -/
def readList : Bytes → Option (List α × Bytes)
  | [] => none
  | b :: s => if b = closing then some ([], s) else readItems closing item (s.length + 1) (b :: s)

end Lists

/-- Reads a member of an object: its name and its value. -/
def readMember (value : Bytes → Option (Value × Bytes)) : Bytes → Option ((Bytes × Value) × Bytes)
  | [] => none
  | b :: s =>
    if b = byte '"' then
      (readText .plain s).bind fun name =>
        match name.2 with
        | [] => none
        | c :: rest =>
          if c = byte ':' then (value rest).map fun r => ((name.1, r.1), r.2) else none
    else none

/-- Reads a value that is nested at most so deep, and gives it with the rest. -/
def readValue : Nat → Bytes → Option (Value × Bytes)
  | 0, _ => none
  | _ + 1, [] => none
  | depth + 1, b :: s =>
    if b = byte '"' then (readText .plain s).map fun r => (.text r.1, r.2)
    else if b = byte '[' then
      (readList (byte ']') (readValue depth) s).map fun r => (.array r.1, r.2)
    else if b = byte '\x7b' then
      (readList (byte '\x7d') (readMember (readValue depth)) s).map fun r => (.object r.1, r.2)
    else (readNumber (b :: s)).map fun r => (.number r.1, r.2)

/-- The value that stands on a line. -/
def readLine (s : Bytes) : Option Value :=
  (readValue s.length s).bind fun r => if r.2 = bytes "\n" then some r.1 else none

end Json

/-! ## §2 Characters -/

open Utf8

theorem toUInt8_eq {n : Nat} {b : UInt8} (h : n = b.toNat) : n.toUInt8 = b := by
  subst h
  exact UInt8.ofNat_toNat

theorem encodeRune_two {a b : UInt8} (ha : 0xC2 ≤ a.toNat ∧ a.toNat < 0xE0)
    (hb : 0x80 ≤ b.toNat ∧ b.toNat ≤ 0xBF) :
    encodeRune (a.toNat % 32 * 64 + b.toNat % 64) = [a, b] := by
  generalize hcode : a.toNat % 32 * 64 + b.toNat % 64 = code
  have hascii : ¬code < 0x80 := by omega
  have htwo : code < 0x800 := by omega
  have hfirst : (0xC0 + code / 64).toUInt8 = a := toUInt8_eq (by omega)
  have hsecond : (0x80 + code % 64).toUInt8 = b := toUInt8_eq (by omega)
  rw [encodeRune, if_neg hascii, if_pos htwo, hfirst, hsecond]

theorem encodeRune_three {a b c : UInt8} (ha : 0xE0 ≤ a.toNat ∧ a.toNat < 0xF0)
    (hb : 0x80 ≤ b.toNat ∧ b.toNat ≤ 0xBF) (hlow : a.toNat = 0xE0 → 0xA0 ≤ b.toNat)
    (hhigh : a.toNat = 0xED → b.toNat ≤ 0x9F) (hc : 0x80 ≤ c.toNat ∧ c.toNat ≤ 0xBF) :
    encodeRune ((a.toNat % 16 * 64 + b.toNat % 64) * 64 + c.toNat % 64) = [a, b, c] := by
  generalize hcode : (a.toNat % 16 * 64 + b.toNat % 64) * 64 + c.toNat % 64 = code
  have htwo : ¬code < 0x800 := by omega
  have hvalid : ¬((decide (0xD800 ≤ code) && decide (code < 0xE000) || decide (0x110000 ≤ code)) = true) := by
    simp only [Bool.or_eq_true, Bool.and_eq_true, decide_eq_true_eq]
    omega
  have hthree : code < 0x10000 := by omega
  have hfirst : (0xE0 + code / 4096).toUInt8 = a := toUInt8_eq (by omega)
  have hsecond : (0x80 + code / 64 % 64).toUInt8 = b := toUInt8_eq (by omega)
  have hthird : (0x80 + code % 64).toUInt8 = c := toUInt8_eq (by omega)
  rw [encodeRune, if_neg (by omega), if_neg htwo, if_neg hvalid, if_pos hthree, hfirst, hsecond, hthird]

theorem encodeRune_four {a b c d : UInt8} (ha : 0xF0 ≤ a.toNat ∧ a.toNat < 0xF5)
    (hb : 0x80 ≤ b.toNat ∧ b.toNat ≤ 0xBF) (hlow : a.toNat = 0xF0 → 0x90 ≤ b.toNat)
    (hhigh : a.toNat = 0xF4 → b.toNat ≤ 0x8F) (hc : 0x80 ≤ c.toNat ∧ c.toNat ≤ 0xBF)
    (hd : 0x80 ≤ d.toNat ∧ d.toNat ≤ 0xBF) :
    encodeRune (((a.toNat % 8 * 64 + b.toNat % 64) * 64 + c.toNat % 64) * 64 + d.toNat % 64) =
      [a, b, c, d] := by
  generalize hcode : ((a.toNat % 8 * 64 + b.toNat % 64) * 64 + c.toNat % 64) * 64 + d.toNat % 64 = code
  have hthree : ¬code < 0x10000 := by omega
  have hvalid : ¬((decide (0xD800 ≤ code) && decide (code < 0xE000) || decide (0x110000 ≤ code)) = true) := by
    simp only [Bool.or_eq_true, Bool.and_eq_true, decide_eq_true_eq]
    omega
  have hfirst : (0xF0 + code / 262144).toUInt8 = a := toUInt8_eq (by omega)
  have hsecond : (0x80 + code / 4096 % 64).toUInt8 = b := toUInt8_eq (by omega)
  have hthird : (0x80 + code / 64 % 64).toUInt8 = c := toUInt8_eq (by omega)
  have hfourth : (0x80 + code % 64).toUInt8 = d := toUInt8_eq (by omega)
  rw [encodeRune, if_neg (by omega), if_neg (by omega), if_neg hvalid, if_neg hthree, hfirst, hsecond,
    hthird, hfourth]

/-- The second byte of a sequence is a continuation byte, with one more bound behind one first byte. -/
theorem second_bounds {a b x y m n : UInt8} (hm : 0x80 ≤ m) (hn : n ≤ 0xBF)
    (hlow : (if a = x then m else 0x80) ≤ b) (hhigh : b ≤ (if a = y then n else 0xBF)) :
    (0x80 ≤ b.toNat ∧ b.toNat ≤ 0xBF) ∧ (a.toNat = x.toNat → m.toNat ≤ b.toNat) ∧
      (a.toNat = y.toNat → b.toNat ≤ n.toNat) := by
  simp only [UInt8.le_iff_toNat_le, UInt8.toNat_inj] at *
  refine ⟨⟨?_, ?_⟩, ?_, ?_⟩
  · split at hlow
    · exact Nat.le_trans hm hlow
    · exact hlow
  · split at hhigh
    · exact Nat.le_trans hhigh hn
    · exact hhigh
  · intro h
    rwa [if_pos h] at hlow
  · intro h
    rwa [if_pos h] at hhigh

/-- A well-formed sequence is the encoding of its code. -/
theorem encodeRune_of_lead? {a : UInt8} {rest : Bytes} {code more : Nat}
    (h : lead? a rest = some (code, more)) : encodeRune code = a :: rest.take more := by
  have htail : ∀ {b : UInt8}, isTail b = true → 0x80 ≤ b.toNat ∧ b.toNat ≤ 0xBF := by
    intro b hb
    simpa [isTail, UInt8.le_iff_toNat_le] using hb
  unfold lead? at h
  split at h
  · next hascii =>
    simp only [Option.some.injEq, Prod.mk.injEq] at h
    obtain ⟨rfl, rfl⟩ := h
    have hlow : a.toNat < 0x80 := UInt8.lt_iff_toNat_lt.1 hascii
    rw [encodeRune, if_pos hlow, toUInt8_eq rfl, List.take_zero]
  split at h
  · simp at h
  next hfirst =>
  have hfirst := UInt8.le_iff_toNat_le.1 (UInt8.not_lt.1 hfirst)
  split at h
  · next htwo =>
    split at h
    · simp only [Option.ite_none_right_eq_some, Option.some.injEq, Prod.mk.injEq] at h
      obtain ⟨hb, rfl, rfl⟩ := h
      exact encodeRune_two ⟨hfirst, UInt8.lt_iff_toNat_lt.1 htwo⟩ (htail hb)
    · simp at h
  next htwo =>
  have htwo := UInt8.le_iff_toNat_le.1 (UInt8.not_lt.1 htwo)
  split at h
  · next hthree =>
    split at h
    · simp only [Option.ite_none_right_eq_some, Option.some.injEq, Prod.mk.injEq,
        Bool.and_eq_true, decide_eq_true_eq] at h
      obtain ⟨⟨⟨hb, hb'⟩, hc⟩, rfl, rfl⟩ := h
      obtain ⟨hsecond, hlow, hhigh⟩ := second_bounds (by decide) (by decide) hb hb'
      exact encodeRune_three ⟨htwo, UInt8.lt_iff_toNat_lt.1 hthree⟩ hsecond hlow hhigh (htail hc)
    · simp at h
  next hthree =>
  have hthree := UInt8.le_iff_toNat_le.1 (UInt8.not_lt.1 hthree)
  split at h
  · next hfour =>
    split at h
    · simp only [Option.ite_none_right_eq_some, Option.some.injEq, Prod.mk.injEq,
        Bool.and_eq_true, decide_eq_true_eq] at h
      obtain ⟨⟨⟨⟨hb, hb'⟩, hc⟩, hd⟩, rfl, rfl⟩ := h
      obtain ⟨hsecond, hlow, hhigh⟩ := second_bounds (by decide) (by decide) hb hb'
      exact encodeRune_four ⟨hthree, UInt8.lt_iff_toNat_lt.1 hfour⟩ hsecond hlow hhigh (htail hc)
        (htail hd)
    · simp at h
  · simp at h

/-- A rune that is not malformed holds the encoding of its code. -/
theorem encodeRune_code {s : Bytes} {r : Rune} (h : r ∈ runes s) (hr : r.isMalformed = false) :
    encodeRune r.code = r.raw := by
  obtain ⟨x, rest, hfirst⟩ := exists_firstRune?_of_mem_runes h
  rcases firstRune?_cases hfirst with ⟨a, tail, code, more, -, hlead, rfl, -⟩ | ⟨a, -, -, rfl⟩
  · exact encodeRune_of_lead? hlead
  · exact absurd hr (by simp [Rune.isMalformed])

namespace Json

/-! ## §3 Strings -/

/-- A character of a text as it is read back. -/
def legibleRune (r : Rune) : Bytes := if r.isMalformed then bytes "\uFFFD" else r.raw

/-- A text as it is read back, with every malformed byte replaced. -/
def legible (s : Bytes) : Bytes := (runes s).flatMap legibleRune

/-- Bytes that stand for themselves in a string. -/
def Plain (x : Bytes) : Prop := ∀ b ∈ x, b ≠ byte '"' ∧ b ≠ byte '\\' ∧ ¬b < 0x20

instance (x : Bytes) : Decidable (Plain x) := List.decidableBAll _ x

@[simp]
theorem before_nil (read : Option (Bytes × Bytes)) : before [] read = read := by
  cases read <;> rfl

theorem before_before (x y : Bytes) (read : Option (Bytes × Bytes)) :
    before x (before y read) = before (x ++ y) read := by
  cases read <;> simp [before]

theorem readText_plain {x : Bytes} (hx : Plain x) (s : Bytes) :
    readText .plain (x ++ s) = before x (readText .plain s) := by
  induction x with
  | nil => simp
  | cons b x ih =>
    obtain ⟨hquote, hbackslash, hcontrol⟩ := hx b List.mem_cons_self
    have hrest := ih fun c hc => hx c (List.mem_cons_of_mem b hc)
    rw [List.cons_append, readText, if_neg hquote, if_neg hbackslash, if_neg hcontrol, hrest,
      before_before]
    rfl

/-- The four digits behind `\u` are those of the code. -/
theorem readText_unicodeEscape {c : Nat} (hc : c < 65536) (s : Bytes) :
    readText .plain (unicodeEscape c ++ s) = before (encodeRune c) (readText .plain s) := by
  have hdigit : ∀ n, Bytes.hexValue? (Bytes.hexDigit (n % 16)) = some (n % 16) := fun n =>
    Bytes.hexValue?_hexDigit (Nat.mod_lt n (by decide))
  have hcode : 16 * (16 * (16 * (16 * 0 + c / 4096 % 16) + c / 256 % 16) + c / 16 % 16) + c % 16 = c := by
    omega
  show readText (.digits 3 0) (Bytes.hexDigit (c / 4096 % 16) :: Bytes.hexDigit (c / 256 % 16) ::
    Bytes.hexDigit (c / 16 % 16) :: Bytes.hexDigit (c % 16) :: s) = _
  simp only [readText, hdigit, Option.bind_some, hcode]

/-- The bytes of a character that is no quote, no backslash and no control character. -/
theorem plain_raw {text : Bytes} {r : Rune} (h : r ∈ runes text) (hquote : r.code ≠ 0x22)
    (hbackslash : r.code ≠ 0x5C) (hcontrol : ¬r.code < 0x20) : Plain r.raw := by
  intro c hc
  rcases ascii_or_of_mem_runes h with ⟨b, -, rfl⟩ | hbytes
  · obtain rfl : c = b := by simpa [asciiRune] using hc
    refine ⟨?_, ?_, fun hlow => hcontrol (UInt8.lt_iff_toNat_lt.1 hlow)⟩
    · rintro rfl
      exact hquote rfl
    · rintro rfl
      exact hbackslash rfl
  · have hhigh := hbytes c hc
    refine ⟨?_, ?_, fun hlow => absurd (UInt8.lt_of_le_of_lt hhigh hlow) (by decide)⟩
    · rintro rfl
      exact absurd hhigh (by decide)
    · rintro rfl
      exact absurd hhigh (by decide)

/-- Each character is read back as it was, or as U+FFFD when it was malformed. -/
theorem readText_rune {style : Style} (hstyle : style.malformed = bytes "\uFFFD") {text : Bytes}
    {r : Rune} (h : r ∈ runes text) (s : Bytes) :
    readText .plain (rune style r ++ s) = before (legibleRune r) (readText .plain s) := by
  cases hmalformed : r.isMalformed with
  | true =>
    have hplain : Plain (bytes "\uFFFD") := by decide
    simp only [rune, legibleRune, hmalformed, if_true, hstyle]
    exact readText_plain hplain s
  | false =>
    have hraw := encodeRune_code h hmalformed
    -- an escape is read as the encoding of a code, and that is what the character holds
    have hescape : ∀ {x : Bytes} {code : Nat}, r.code = code →
        readText .plain (x ++ s) = before (encodeRune code) (readText .plain s) →
        readText .plain (x ++ s) = before r.raw (readText .plain s) := by
      rintro x code rfl hread
      rwa [hraw] at hread
    simp only [rune, legibleRune, hmalformed, Bool.false_eq_true, if_false]
    split
    · next hcode =>
      simp only [Bool.or_eq_true, beq_iff_eq] at hcode
      rcases hcode with hcode | hcode <;>
      · apply hescape hcode
        rw [← hraw, hcode]
        rfl
    next hmark =>
    split
    · next hcode => exact hescape (beq_iff_eq.1 hcode) rfl
    split
    · next hcode => exact hescape (beq_iff_eq.1 hcode) rfl
    split
    · next hcode => exact hescape (beq_iff_eq.1 hcode) rfl
    split
    · next hcode => exact hescape (beq_iff_eq.1 (Bool.and_eq_true_iff.1 hcode).2) rfl
    split
    · next hcode => exact hescape (beq_iff_eq.1 (Bool.and_eq_true_iff.1 hcode).2) rfl
    split
    · next hcode =>
      simp only [Bool.or_eq_true, beq_iff_eq, decide_eq_true_eq] at hcode
      exact hescape rfl (readText_unicodeEscape (by omega) s)
    next hcontrol =>
    split
    · next hcode =>
      simp only [Bool.and_eq_true, Bool.or_eq_true, beq_iff_eq] at hcode
      exact hescape rfl (readText_unicodeEscape (by omega) s)
    · simp only [Bool.or_eq_true, beq_iff_eq, decide_eq_true_eq, not_or] at hmark hcontrol
      exact readText_plain (plain_raw h hmark.1 hmark.2 hcontrol.1.1) s

/-- A written text is read back in front of anything. -/
theorem readText_string {style : Style} (hstyle : style.malformed = bytes "\uFFFD") (text s : Bytes) :
    readText .plain ((runes text).flatMap (rune style) ++ byte '"' :: s) = some (legible text, s) := by
  have hrunes : ∀ rs : List Rune, (∀ r ∈ rs, r ∈ runes text) →
      readText .plain (rs.flatMap (rune style) ++ byte '"' :: s) =
        some (rs.flatMap legibleRune, s) := by
    intro rs hrs
    induction rs with
    | nil => rfl
    | cons r rs ih =>
      have hrest := ih fun r' hr' => hrs r' (List.mem_cons_of_mem r hr')
      rw [List.flatMap_cons, List.append_assoc, readText_rune hstyle (hrs r List.mem_cons_self), hrest]
      rfl
  exact hrunes _ fun _ hr => hr

/-! ## §4 Numbers -/

/-- A rest that does not go on with a digit. -/
def Ends (s : Bytes) : Prop := ∀ b ∈ s.head?, Bytes.isDigit b = false

theorem ends_cons {b : UInt8} (hb : Bytes.isDigit b = false) (s : Bytes) : Ends (b :: s) := by
  intro c hc
  obtain rfl : b = c := by simpa using hc
  exact hb

theorem byte_of_isDigit {c : Char} (h : c.isDigit = true) :
    (byte c).toNat = c.toNat ∧ Bytes.isDigit (byte c) = true := by
  simp only [Char.isDigit, Bool.and_eq_true, decide_eq_true_eq, UInt32.le_iff_toNat_le] at h
  obtain ⟨hlow, hhigh⟩ : 48 ≤ c.toNat ∧ c.toNat ≤ 57 := h
  have hbyte : (byte c).toNat = c.toNat := by
    show c.toNat % 256 = c.toNat
    omega
  refine ⟨hbyte, ?_⟩
  simp only [Bytes.isDigit, Bool.and_eq_true, decide_eq_true_eq, UInt8.le_iff_toNat_le, hbyte]
  exact ⟨hlow, hhigh⟩

theorem isDigit_of_mem_decimalNat {n : Nat} {b : UInt8} (hb : b ∈ Bytes.decimalNat n) :
    Bytes.isDigit b = true := by
  obtain ⟨c, hc, rfl⟩ := List.mem_map.1 hb
  exact (byte_of_isDigit (Nat.isDigit_of_mem_toDigits (by decide) (by decide) hc)).2

theorem decimalNat_ne_nil (n : Nat) : Bytes.decimalNat n ≠ [] := by
  simp [Bytes.decimalNat, Nat.toDigits_ne_nil]

/-- The digits of a number add up to it. -/
theorem numeral_decimalNat (n : Nat) : numeral (Bytes.decimalNat n) = n := by
  have hstep : ∀ (m : Nat), ∀ c ∈ Nat.toDigits 10 n,
      10 * m + ((byte c).toNat - 0x30) = 10 * m + (c.toNat - '0'.toNat) := by
    intro m c hc
    rw [(byte_of_isDigit (Nat.isDigit_of_mem_toDigits (by decide) (by decide) hc)).1]
    rfl
  calc numeral (Bytes.decimalNat n)
      = (Nat.toDigits 10 n).foldl (fun m c => 10 * m + ((byte c).toNat - 0x30)) 0 := List.foldl_map
    _ = Nat.ofDigitChars 10 (Nat.toDigits 10 n) 0 := List.foldl_ext _ _ _ hstep
    _ = n := Nat.ofDigitChars_ten_toDigits

theorem readNatural_decimalNat (n : Nat) {s : Bytes} (hs : Ends s) :
    readNatural (Bytes.decimalNat n ++ s) = some (n, s) := by
  have hdigits := fun b (hb : b ∈ Bytes.decimalNat n) => isDigit_of_mem_decimalNat hb
  have hnone : s.takeWhile Bytes.isDigit = [] ∧ s.dropWhile Bytes.isDigit = s := by
    cases s with
    | nil => exact ⟨rfl, rfl⟩
    | cons b s => simp [hs b rfl]
  rw [readNatural, List.takeWhile_append_of_pos hdigits, List.dropWhile_append_of_pos hdigits, hnone.1,
    hnone.2, List.append_nil, numeral_decimalNat, if_neg (by simpa using decimalNat_ne_nil n)]

theorem decimal_eq_cons (n : Int) :
    ∃ b s, Bytes.decimal n = b :: s ∧ (b = byte '-' ∨ Bytes.isDigit b = true) := by
  unfold Bytes.decimal
  split
  · exact ⟨_, _, rfl, Or.inl rfl⟩
  · obtain ⟨b, s, hdigits⟩ := List.exists_cons_of_ne_nil (decimalNat_ne_nil n.natAbs)
    exact ⟨b, s, hdigits, Or.inr (isDigit_of_mem_decimalNat (hdigits ▸ List.mem_cons_self))⟩

theorem readNumber_decimal (n : Int) {s : Bytes} (hs : Ends s) :
    readNumber (Bytes.decimal n ++ s) = some (n, s) := by
  unfold Bytes.decimal
  split
  · next hneg =>
    rw [List.cons_append, readNumber, if_pos rfl, readNatural_decimalNat _ hs, Option.map_some]
    simp only [Option.some.injEq, Prod.mk.injEq, and_true]
    omega
  · next hpos =>
    obtain ⟨b, digits, hdigits⟩ := List.exists_cons_of_ne_nil (decimalNat_ne_nil n.natAbs)
    have hsign : b ≠ byte '-' := by
      rintro rfl
      have hdigit := isDigit_of_mem_decimalNat (hdigits ▸ List.mem_cons_self)
      exact absurd hdigit (by decide)
    rw [hdigits, List.cons_append, readNumber, if_neg hsign, ← List.cons_append, ← hdigits,
      readNatural_decimalNat _ hs, Option.map_some]
    simp only [Option.some.injEq, Prod.mk.injEq, and_true]
    omega

/-! ## §5 Values -/

/-- Bytes stand for a value: they are read as the value in front of any rest that does not go on with a
    digit.  A text is nested less deep than it is long. -/
def Reads (x : Bytes) (v : Value) : Prop :=
  ∀ (depth : Nat) (s : Bytes), x.length ≤ depth → Ends s → readValue depth (x ++ s) = some (v, s)

theorem reads_text {style : Style} (hstyle : style.malformed = bytes "\uFFFD") (s : Bytes) :
    Reads (string style s) (.text (legible s)) := by
  intro depth rest hdepth _
  cases depth with
  | zero => simp [string] at hdepth
  | succ depth =>
    have hread := readText_string hstyle s rest
    simp only [string, List.cons_append, List.append_assoc, List.nil_append, readValue, if_true, hread,
      Option.map_some]

theorem reads_number (n : Int) : Reads (Bytes.decimal n) (.number n) := by
  intro depth rest hdepth hrest
  have hread := readNumber_decimal n hrest
  obtain ⟨b, s, hdigits, hfirst⟩ := decimal_eq_cons n
  rw [hdigits] at hdepth hread ⊢
  -- neither a sign nor a digit begins any other value
  have hother : b ≠ byte '"' ∧ b ≠ byte '[' ∧ b ≠ byte '\x7b' := by
    refine ⟨?_, ?_, ?_⟩ <;>
    · rintro rfl
      exact absurd hfirst (by decide)
  cases depth with
  | zero => simp at hdepth
  | succ depth =>
    rw [List.cons_append] at hread ⊢
    rw [readValue, if_neg hother.1, if_neg hother.2.1, if_neg hother.2.2, hread, Option.map_some]

section Lists

variable {α : Type} {closing : UInt8} {item : Bytes → Option (α × Bytes)} {xs : List Bytes} {vs : List α}

/-- Bytes stand for an item of a list. -/
def ItemReads (item : Bytes → Option (α × Bytes)) (x : Bytes) (v : α) : Prop :=
  ∀ s, Ends s → item (x ++ s) = some (v, s)

theorem readItems_join (hclosing : closing ≠ byte ',' ∧ Bytes.isDigit closing = false)
    (h : List.Forall₂ (ItemReads item) xs vs) (hne : xs ≠ []) {count : Nat}
    (hcount : xs.length ≤ count) (s : Bytes) :
    readItems closing item count (Bytes.join (bytes ",") xs ++ closing :: s) = some (vs, s) := by
  induction h generalizing count with
  | nil => exact absurd rfl hne
  | @cons x v xs vs hx hrest ih =>
    obtain ⟨count, rfl⟩ : ∃ n, count = n + 1 := Nat.exists_eq_succ_of_ne_zero (by simp at hcount; omega)
    cases hrest with
    | nil =>
      rw [Bytes.join, readItems, hx _ (ends_cons hclosing.2 s), Option.bind_some]
      simp only [if_neg hclosing.1, if_true]
    | @cons y w ys ws hy hys =>
      have hmore : readItems closing item count (Bytes.join (bytes ",") (y :: ys) ++ closing :: s) =
          some (w :: ws, s) := ih (by simp) (by simpa using hcount)
      have hfirst := hx _ (ends_cons (by decide : Bytes.isDigit (byte ',') = false)
        (Bytes.join (bytes ",") (y :: ys) ++ closing :: s))
      show readItems closing item (count + 1)
        (x ++ [byte ','] ++ Bytes.join (bytes ",") (y :: ys) ++ closing :: s) = _
      rw [readItems, List.append_assoc, List.append_assoc, List.singleton_append, hfirst,
        Option.bind_some]
      simp only [if_true, hmore, Option.map_some]

theorem length_le_length_join (sep : UInt8) (xs : List Bytes) :
    xs.length ≤ (Bytes.join [sep] xs).length + 1 := by
  induction xs with
  | nil => simp
  | cons x xs ih =>
    cases xs with
    | nil => simp [Bytes.join]
    | cons y ys =>
      simp only [Bytes.join, List.length_append, List.length_cons, List.length_nil] at ih ⊢
      omega

/-- A list is read back when no item is read from the byte that closes it. -/
theorem readList_join (hclosing : closing ≠ byte ',' ∧ Bytes.isDigit closing = false)
    (hitem : item [] = none ∧ ∀ s, item (closing :: s) = none)
    (h : List.Forall₂ (ItemReads item) xs vs) (s : Bytes) :
    readList closing item (Bytes.join (bytes ",") xs ++ closing :: s) = some (vs, s) := by
  cases h with
  | nil => exact if_pos rfl
  | @cons x v xs vs hx hrest =>
    have hlength := length_le_length_join (byte ',') (x :: xs)
    have hread : ∀ count, (x :: xs).length ≤ count → _ := fun count hcount =>
      readItems_join hclosing (.cons hx hrest) (List.cons_ne_nil x xs) hcount s
    -- the list begins with its first item, and so not with the byte that closes it
    cases x with
    | nil => exact absurd (hx [] (by simp [Ends])) (by simp [hitem.1])
    | cons b x =>
      have hopen : b ≠ closing := by
        rintro rfl
        exact absurd (hx [] (by simp [Ends])) (by simp [hitem.2])
      obtain ⟨tail, htail⟩ : ∃ tail, Bytes.join (bytes ",") ((b :: x) :: xs) = b :: tail := by
        rw [Bytes.join_cons]
        exact ⟨_, rfl⟩
      have hcount : ((b :: x) :: xs).length ≤ (tail ++ closing :: s).length + 1 := by
        rw [show Bytes.join [byte ','] _ = _ from htail] at hlength
        simp only [List.length_append, List.length_cons] at hlength ⊢
        omega
      have hitems := hread _ hcount
      rw [htail, List.cons_append] at hitems ⊢
      rw [readList, if_neg hopen, hitems]

end Lists

/-- No value begins with a byte that closes a list. -/
theorem readValue_eq_none {b : UInt8} (hb : b = byte ']' ∨ b = byte '\x7d') (depth : Nat) (s : Bytes) :
    readValue depth (b :: s) = none := by
  cases depth with
  | zero => rfl
  | succ depth => rcases hb with rfl | rfl <;> rfl

theorem readValue_nil (depth : Nat) : readValue depth [] = none := by cases depth <;> rfl

theorem length_le_length_join_of_mem {sep x : Bytes} {xs : List Bytes} (h : x ∈ xs) :
    x.length ≤ (Bytes.join sep xs).length := by
  induction xs with
  | nil => simp at h
  | cons y xs ih =>
    rcases List.mem_cons.1 h with rfl | h
    · rw [Bytes.join_cons]
      simp
    · cases xs with
      | nil => simp at h
      | cons z zs =>
        have hrest := ih h
        simp only [Bytes.join, List.length_append] at hrest ⊢
        omega

theorem reads_array {xs : List Bytes} {vs : List Value} (h : List.Forall₂ Reads xs vs) :
    Reads (array xs) (.array vs) := by
  intro depth rest hdepth _
  have hwritten : array xs ++ rest =
      byte '[' :: (Bytes.join (bytes ",") xs ++ byte ']' :: rest) := by
    simp [array, bytes_bracket]
  have hlength : (array xs).length = (Bytes.join (bytes ",") xs).length + 2 := by
    simp [array, bytes_bracket]
  obtain ⟨depth, rfl⟩ : ∃ n, depth = n + 1 := Nat.exists_eq_succ_of_ne_zero (by omega)
  -- each value is shorter than the array, and so nested less deep
  have hitems : List.Forall₂ (ItemReads (readValue depth)) xs vs := by
    have hshort : ∀ x ∈ xs, x.length ≤ depth := by
      intro x hx
      have := @length_le_length_join_of_mem (bytes ",") x xs hx
      omega
    refine ((List.forall₂_and_left xs vs).2 ⟨hshort, h⟩).imp ?_
    rintro x v ⟨hx, hv⟩ s hs
    exact hv depth s hx hs
  have hlist := readList_join (by decide) ⟨readValue_nil depth, readValue_eq_none (Or.inl rfl) depth⟩
    hitems rest
  rw [hwritten, readValue, if_neg (by decide), if_pos rfl, hlist, Option.map_some]

/-- A written member stands for a named value; its name needs no escapes. -/
structure MemberReads (m : String × Bytes) (v : Bytes × Value) : Prop where
  plain : Plain (bytes m.1)
  name : bytes m.1 = v.1
  value : Reads m.2 v.2

/-- A member as it is written. -/
def written (m : String × Bytes) : Bytes := bytes "\"" ++ bytes m.1 ++ bytes "\":" ++ m.2

theorem MemberReads.itemReads {m : String × Bytes} {v : Bytes × Value} (h : MemberReads m v)
    {depth : Nat} (hdepth : (written m).length ≤ depth) :
    ItemReads (readMember (readValue depth)) (written m) v := by
  intro s hs
  have hname : readText .plain (bytes m.1 ++ byte '"' :: (byte ':' :: (m.2 ++ s))) =
      some (v.1, byte ':' :: (m.2 ++ s)) := by
    rw [readText_plain h.plain, readText, if_pos rfl, h.name]
    simp [before]
  have hvalue : readValue depth (m.2 ++ s) = some (v.2, s) := by
    apply h.value depth s _ hs
    simp only [written, List.length_append] at hdepth
    omega
  have hwritten : written m ++ s =
      byte '"' :: (bytes m.1 ++ byte '"' :: (byte ':' :: (m.2 ++ s))) := by
    simp only [written, List.append_assoc]
    rfl
  rw [hwritten, readMember, if_pos rfl, hname, Option.bind_some]
  simp only [if_true, hvalue, Option.map_some]

theorem reads_object {members : List (String × Bytes)} {vs : List (Bytes × Value)}
    (h : List.Forall₂ MemberReads members vs) : Reads (object members) (.object vs) := by
  intro depth rest hdepth _
  have hwritten : object members ++ rest =
      byte '\x7b' :: (Bytes.join (bytes ",") (members.map written) ++ byte '\x7d' :: rest) := by
    show bytes "\x7b" ++ Bytes.join (bytes ",") (members.map written) ++ bytes "\x7d" ++ rest = _
    rw [List.append_assoc, List.append_assoc]
    rfl
  have hlength : (object members).length =
      (Bytes.join (bytes ",") (members.map written)).length + 2 := by
    have := congrArg List.length hwritten
    simp only [List.length_append, List.length_cons] at this
    omega
  obtain ⟨depth, rfl⟩ : ∃ n, depth = n + 1 := Nat.exists_eq_succ_of_ne_zero (by omega)
  have hitems : List.Forall₂ (ItemReads (readMember (readValue depth))) (members.map written) vs := by
    have hshort : ∀ m ∈ members, (written m).length ≤ depth := by
      intro m hm
      have := @length_le_length_join_of_mem (bytes ",") _ _ (List.mem_map_of_mem (f := written) hm)
      omega
    rw [List.forall₂_map_left_iff]
    refine ((List.forall₂_and_left members vs).2 ⟨hshort, h⟩).imp ?_
    rintro m v ⟨hm, hv⟩
    exact hv.itemReads hm
  have hclosing : byte '\x7d' ≠ byte ',' ∧ Bytes.isDigit (byte '\x7d') = false := by decide
  have hlist := readList_join hclosing ⟨rfl, fun s => rfl⟩ hitems rest
  rw [hwritten, readValue, if_neg (by decide), if_neg (by decide), if_pos rfl, hlist, Option.map_some]

theorem Reads.readLine {x : Bytes} {v : Value} (h : Reads x v) : readLine (x ++ bytes "\n") = some v := by
  have hends : Ends (bytes "\n") := ends_cons (by decide) []
  have hread := h (x ++ bytes "\n").length (bytes "\n") (by simp) hends
  rw [Json.readLine, hread, Option.bind_some, if_pos rfl]

end Json

end DocPages
