import Mathlib.Data.List.DropRight
import DocPages.Text.Blank

/-!
# Characters and Trimming

A text can be cut between any two of its runes without changing how either side is read, and texts can
be joined where the second one starts with no continuation byte.  Hence trimming removes blanks at the
two ends and nothing else, what it leaves is trimmed already, and blanks put around a text do not matter.

## Main results

- `runes_of_eq_append`: the two sides of a cut between runes are read as before
- `runes_append`, `runes_append_cons`: where joined texts are read as each of them is
- `exists_eq_append_trim_append`: what trimming removes
- `trim_eq_self_iff`: a text is trimmed when neither its first nor its last rune is a blank
- `AllBlank`, `trim_pad`: blanks put around a text are trimmed away
- `trim_trim`, `trim_space_cons`, `trim_append_blank`
-/

namespace DocPages

/-! ## §1 Sequences of bytes -/

namespace Utf8

/-- An ASCII byte continues no sequence. -/
theorem isTail_of_lt {b : UInt8} (hb : b < 0x80) : isTail b = false := by
  simp [isTail, UInt8.not_le.2 hb]

theorem le_of_isTail {b : UInt8} (hb : isTail b = true) : 0x80 ≤ b := by
  simp only [isTail, Bool.and_eq_true, decide_eq_true_eq] at hb
  exact hb.1

/-- A continuation byte starts no sequence. -/
theorem lead?_of_isTail {a : UInt8} (ha : isTail a = true) (rest : Bytes) : lead? a rest = none := by
  simp only [isTail, Bool.and_eq_true, decide_eq_true_eq] at ha
  have hascii : ¬a < 0x80 := UInt8.not_lt.2 ha.1
  have hlow : a < 0xC2 := UInt8.lt_of_le_of_lt ha.2 (by decide)
  simp [lead?, hascii, hlow]

/-- A well-formed sequence is either one ASCII byte or a byte outside ASCII and continuation bytes, and
    no byte behind it matters. -/
theorem lead?_eq_some {a : UInt8} {rest : Bytes} {code more : Nat}
    (h : lead? a rest = some (code, more)) :
    more ≤ rest.length ∧ (∀ y, lead? a (rest.take more ++ y) = some (code, more)) ∧
      (a < 0x80 ∧ code = a.toNat ∧ more = 0 ∨ 0x80 ≤ a ∧ ∀ b ∈ rest.take more, isTail b = true) := by
  -- the bounds of the second byte depend on the first one, but it is always a continuation byte
  have hsecond : ∀ {b m n : UInt8} {p q : Prop} [Decidable p] [Decidable q], 0x80 ≤ m → n ≤ 0xBF →
      (if p then m else 0x80) ≤ b → b ≤ (if q then n else 0xBF) → isTail b = true := by
    intro b m n p q _ _ hm hn hlow hhigh
    have hlow : 0x80 ≤ b := by
      split at hlow
      · exact UInt8.le_trans hm hlow
      · exact hlow
    have hhigh : b ≤ 0xBF := by
      split at hhigh
      · exact UInt8.le_trans hhigh hn
      · exact hhigh
    simp [isTail, hlow, hhigh]
  unfold lead? at h
  split at h
  · next hascii =>
    simp only [Option.some.injEq, Prod.mk.injEq] at h
    obtain ⟨rfl, rfl⟩ := h
    simp [lead?, hascii]
  next hascii =>
  have ha : 0x80 ≤ a := UInt8.not_lt.1 hascii
  split at h
  · simp at h
  next hmalformed =>
  -- from here on the cases are sequences of two, three and four bytes
  split at h
  · next htwo =>
    split at h
    · next b tail =>
      simp only [Option.ite_none_right_eq_some, Option.some.injEq, Prod.mk.injEq] at h
      obtain ⟨hb, rfl, rfl⟩ := h
      exact ⟨by simp, fun y => by simp [lead?, hascii, hmalformed, htwo, hb],
        Or.inr ⟨ha, by simp [hb]⟩⟩
    · simp at h
  next htwo =>
  split at h
  · next hthree =>
    split at h
    · next b c tail =>
      simp only [Option.ite_none_right_eq_some, Option.some.injEq, Prod.mk.injEq,
        Bool.and_eq_true, decide_eq_true_eq] at h
      obtain ⟨⟨⟨hb, hb'⟩, hc⟩, rfl, rfl⟩ := h
      exact ⟨by simp, fun y => by simp [lead?, hascii, hmalformed, htwo, hthree, hb, hb', hc],
        Or.inr ⟨ha, by simp [hsecond (by decide) (by decide) hb hb', hc]⟩⟩
    · simp at h
  next hthree =>
  split at h
  · next hfour =>
    split at h
    · next b c d tail =>
      simp only [Option.ite_none_right_eq_some, Option.some.injEq, Prod.mk.injEq,
        Bool.and_eq_true, decide_eq_true_eq] at h
      obtain ⟨⟨⟨⟨hb, hb'⟩, hc⟩, hd⟩, rfl, rfl⟩ := h
      exact ⟨by simp,
        fun y => by simp [lead?, hascii, hmalformed, htwo, hthree, hfour, hb, hb', hc, hd],
        Or.inr ⟨ha, by simp [hsecond (by decide) (by decide) hb hb', hc, hd]⟩⟩
    · simp at h
  · simp at h

theorem lead?_append_of_eq_some {a : UInt8} {x : Bytes} {p : Nat × Nat} (h : lead? a x = some p)
    (y : Bytes) : lead? a (x ++ y) = some p := by
  obtain ⟨-, hwindow, -⟩ := lead?_eq_some h
  have := hwindow (x.drop p.2 ++ y)
  rwa [← List.append_assoc, List.take_append_drop] at this

/-- No sequence reaches across a byte that continues none. -/
theorem lead?_append_cons (a : UInt8) (x : Bytes) {b : UInt8} (hb : isTail b = false) (y : Bytes) :
    lead? a (x ++ b :: y) = lead? a x := by
  cases hx : lead? a x with
  | some p => exact lead?_append_of_eq_some hx _
  | none =>
    cases hxy : lead? a (x ++ b :: y) with
    | none => rfl
    | some p =>
      obtain ⟨code, more⟩ := p
      obtain ⟨-, hwindow, hbytes⟩ := lead?_eq_some hxy
      have hmore : more ≤ x.length := by
        by_contra hlong
        rcases hbytes with ⟨-, -, rfl⟩ | ⟨-, hbytes⟩
        · exact hlong (Nat.zero_le _)
        · -- otherwise that byte would be one of the sequence's
          have hmem : b ∈ (x ++ b :: y).take more := by
            rw [List.take_append, List.mem_append]
            obtain ⟨n, hn⟩ := Nat.exists_eq_succ_of_ne_zero (by omega : more - x.length ≠ 0)
            simp [hn]
          simp [hbytes b hmem] at hb
      have := hwindow (x.drop more)
      rw [List.take_append_of_le_length hmore, List.take_append_drop, hx] at this
      exact absurd this (by simp)

theorem runesFrom_eq_runes_drop (n : Nat) (s : Bytes) : runesFrom n s = runes (s.drop n) := by
  induction s generalizing n with
  | nil => simp [runes, runesFrom]
  | cons a rest ih =>
    cases n with
    | zero => rfl
    | succ n => simp [runesFrom, ih]

end Utf8

/-! ## §2 The first rune -/

open Utf8

/-- The first rune is a well-formed sequence or a single malformed byte. -/
theorem firstRune?_cases {s rest : Bytes} {r : Rune} (h : firstRune? s = some (r, rest)) :
    (∃ a tail code more, s = a :: tail ∧ lead? a tail = some (code, more) ∧
        r = ⟨code, a :: tail.take more⟩ ∧ rest = tail.drop more) ∨
      ∃ a, s = a :: rest ∧ lead? a rest = none ∧ r = ⟨replacement, [a]⟩ := by
  cases s with
  | nil => simp [firstRune?] at h
  | cons a tail =>
    simp only [firstRune?] at h
    cases hlead : lead? a tail with
    | some p =>
      obtain ⟨rfl, rfl⟩ : (⟨p.1, a :: tail.take p.2⟩ : Rune) = r ∧ tail.drop p.2 = rest := by
        simpa [hlead] using h
      exact Or.inl ⟨a, tail, p.1, p.2, rfl, hlead, rfl, rfl⟩
    | none =>
      obtain ⟨rfl, rfl⟩ : (⟨replacement, [a]⟩ : Rune) = r ∧ tail = rest := by
        simpa [hlead] using h
      exact Or.inr ⟨a, rfl, hlead, rfl⟩

theorem runes_eq_cons {s rest : Bytes} {r : Rune} (h : firstRune? s = some (r, rest)) :
    runes s = r :: runes rest := by
  rcases firstRune?_cases h with ⟨a, tail, code, more, rfl, hlead, rfl, rfl⟩ | ⟨a, rfl, hlead, rfl⟩
  · rw [← runesFrom_eq_runes_drop]
    simp [runes, runesFrom, hlead]
  · simp [runes, runesFrom, hlead]

theorem firstRune?_of_runes_eq_cons {s : Bytes} {r : Rune} {rs : List Rune} (h : runes s = r :: rs) :
    ∃ rest, firstRune? s = some (r, rest) ∧ runes rest = rs := by
  have hfirst : ∃ r' rest, firstRune? s = some (r', rest) := by
    cases s with
    | nil => exact absurd h (by simp [runes, runesFrom])
    | cons a tail => cases hlead : lead? a tail <;> simp [firstRune?, hlead]
  obtain ⟨r', rest, hfirst⟩ := hfirst
  obtain ⟨rfl, rfl⟩ := List.cons.inj ((runes_eq_cons hfirst).symm.trans h)
  exact ⟨rest, hfirst, rfl⟩

/-- The first rune stays the same when the text is cut anywhere behind it. -/
theorem firstRune?_raw_append {s y z : Bytes} {r : Rune} (h : firstRune? s = some (r, y ++ z)) :
    firstRune? (r.raw ++ y) = some (r, y) := by
  rcases firstRune?_cases h with ⟨a, tail, code, more, rfl, hlead, rfl, -⟩ | ⟨a, rfl, hlead, rfl⟩
  · obtain ⟨hmore, hwindow, -⟩ := lead?_eq_some hlead
    simp [firstRune?, hwindow, hmore]
  · have hnone : lead? a y = none := by
      cases hy : lead? a y with
      | none => rfl
      | some p => simp [lead?_append_of_eq_some hy] at hlead
    simp [firstRune?, hnone]

theorem firstRune?_append_cons {x rest : Bytes} {r : Rune} (h : firstRune? x = some (r, rest))
    {b : UInt8} (hb : isTail b = false) (y : Bytes) :
    firstRune? (x ++ b :: y) = some (r, rest ++ b :: y) := by
  rcases firstRune?_cases h with ⟨a, tail, code, more, rfl, hlead, rfl, rfl⟩ | ⟨a, rfl, hlead, rfl⟩
  · obtain ⟨hmore, -, -⟩ := lead?_eq_some hlead
    simp [firstRune?, lead?_append_cons a tail hb, hlead, List.take_append_of_le_length hmore,
      List.drop_append_of_le_length hmore]
  · simp [firstRune?, lead?_append_cons a rest hb, hlead]

/-! ## §3 Cutting between runes -/

/-- The rune of an ASCII byte. -/
def asciiRune (b : UInt8) : Rune := ⟨b.toNat, [b]⟩

/-- The blanks of ASCII are the space and some control characters. -/
theorem le_space_of_isBlank {b : UInt8} (hb : b < 0x80) (h : (asciiRune b).isBlank = true) :
    b ≤ 0x20 := by
  rw [UInt8.lt_iff_toNat_lt] at hb
  unfold asciiRune Rune.isBlank DocPages.isBlank at h
  simp only [Bool.or_eq_true, Bool.and_eq_true, decide_eq_true_eq, beq_iff_eq] at h
  rw [UInt8.le_iff_toNat_le]
  have hbound : (0x80 : UInt8).toNat = 0x80 := rfl
  have hspace : (0x20 : UInt8).toNat = 0x20 := rfl
  omega

@[simp] theorem unrunes_append (p q : List Rune) : unrunes (p ++ q) = unrunes p ++ unrunes q := by
  simp [unrunes]

/-- Both sides of a cut between runes are read as before. -/
theorem runes_of_eq_append {s : Bytes} {p q : List Rune} (h : runes s = p ++ q) :
    runes (unrunes p) = p ∧ runes (unrunes q) = q := by
  induction p generalizing s with
  | nil =>
    have hq : unrunes q = s := by rw [← flatMap_raw_runes s, h, List.nil_append]
    exact ⟨rfl, by rw [hq, h, List.nil_append]⟩
  | cons r p ih =>
    obtain ⟨rest, hfirst, hrest⟩ := firstRune?_of_runes_eq_cons h
    obtain ⟨hp, hq⟩ := ih hrest
    have hcut : rest = unrunes p ++ unrunes q := by
      rw [← unrunes_append, ← flatMap_raw_runes rest, hrest]
      rfl
    rw [hcut] at hfirst
    -- the first rune needs no byte behind its own, so the text may be cut at any later rune
    refine ⟨?_, hq⟩
    have := runes_eq_cons (firstRune?_raw_append hfirst)
    rwa [hp] at this

/-- Texts are joined rune by rune if the second one starts with no continuation byte. -/
theorem runes_append (x : Bytes) {y : Bytes} (hy : ∀ b ∈ y.head?, isTail b = false) :
    runes (x ++ y) = runes x ++ runes y := by
  cases y with
  | nil => simp [runes, runesFrom]
  | cons b y =>
    have hb : isTail b = false := hy b rfl
    -- on the runes in front, not on the bytes: a tail of the bytes may begin inside a sequence
    generalize hrs : runes x = rs
    induction rs generalizing x with
    | nil =>
      obtain rfl : x = [] := by rw [← flatMap_raw_runes x, hrs]; rfl
      rfl
    | cons r rs ih =>
      obtain ⟨rest, hfirst, hrest⟩ := firstRune?_of_runes_eq_cons hrs
      rw [runes_eq_cons (firstRune?_append_cons hfirst hb y), ih rest hrest, List.cons_append]

theorem runes_cons {b : UInt8} (hb : b < 0x80) (y : Bytes) :
    runes (b :: y) = asciiRune b :: runes y :=
  runes_eq_cons (by simp [firstRune?, lead?, hb, asciiRune])

/-- An ASCII byte is a rune of its own wherever it stands. -/
theorem runes_append_cons (x : Bytes) {b : UInt8} (hb : b < 0x80) (y : Bytes) :
    runes (x ++ b :: y) = runes x ++ asciiRune b :: runes y := by
  rw [runes_append x (by simpa using isTail_of_lt hb), runes_cons hb]

theorem runes_ne_nil {s : Bytes} (hs : s ≠ []) : runes s ≠ [] := by
  intro h
  exact hs (by rw [← flatMap_raw_runes s, h]; rfl)

/-- Every rune of a text was the first one of some end of it. -/
theorem exists_firstRune?_of_mem_runes {s : Bytes} {r : Rune} (h : r ∈ runes s) :
    ∃ x rest, firstRune? x = some (r, rest) := by
  generalize hrs : runes s = rs at h
  induction rs generalizing s with
  | nil => simp at h
  | cons r' rs ih =>
    obtain ⟨rest, hfirst, hrest⟩ := firstRune?_of_runes_eq_cons hrs
    rcases List.mem_cons.1 h with rfl | h
    · exact ⟨s, rest, hfirst⟩
    · exact ih hrest h

/-- A rune of a text is one ASCII byte, or has no ASCII byte. -/
theorem ascii_or_of_mem_runes {s : Bytes} {r : Rune} (h : r ∈ runes s) :
    (∃ b, b < 0x80 ∧ r = asciiRune b) ∨ ∀ b ∈ r.raw, 0x80 ≤ b := by
  obtain ⟨x, rest, hfirst⟩ := exists_firstRune?_of_mem_runes h
  rcases firstRune?_cases hfirst with ⟨a, tail, code, more, -, hlead, rfl, -⟩ | ⟨a, -, hlead, rfl⟩
  · rcases (lead?_eq_some hlead).2.2 with ⟨ha, rfl, rfl⟩ | ⟨ha, hbytes⟩
    · exact Or.inl ⟨a, ha, rfl⟩
    · exact Or.inr (by simpa [ha] using fun b hb => le_of_isTail (hbytes b hb))
  · have ha : ¬a < 0x80 := fun ha => by simp [lead?, ha] at hlead
    exact Or.inr (by simpa using UInt8.not_lt.1 ha)

/-! ## §4 Trimming -/

/-- The runes without blanks at either end. -/
def strip (rs : List Rune) : List Rune := (rs.dropWhile Rune.isBlank).rdropWhile Rune.isBlank

theorem trim_eq_unrunes_strip (s : Bytes) : trim s = unrunes (strip (runes s)) := rfl

theorem exists_eq_append_strip_append (rs : List Rune) :
    ∃ p q, rs = p ++ strip rs ++ q ∧ ∀ r ∈ p ++ q, r.isBlank = true := by
  refine ⟨rs.takeWhile Rune.isBlank, (rs.dropWhile Rune.isBlank).rtakeWhile Rune.isBlank, ?_, ?_⟩
  · rw [strip, List.append_assoc, List.rdropWhile_append_rtakeWhile, List.takeWhile_append_dropWhile]
  · intro r hr
    rcases List.mem_append.1 hr with hr | hr
    · exact List.mem_takeWhile_imp hr
    · exact List.mem_rtakeWhile_imp hr

/-- What stripping leaves starts and ends with no blank. -/
theorem strip_ends (rs : List Rune) :
    (strip rs).dropWhile Rune.isBlank = strip rs ∧ (strip rs).rdropWhile Rune.isBlank = strip rs := by
  refine ⟨?_, List.rdropWhile_idempotent _ _⟩
  cases hstrip : strip rs with
  | nil => rfl
  | cons r tail =>
    -- its first rune is the first one that was left after dropping blanks in front
    obtain ⟨z, hz⟩ : strip rs <+: rs.dropWhile Rune.isBlank := List.rdropWhile_prefix _ _
    have hhead := List.head?_dropWhile_not Rune.isBlank rs
    rw [← hz, hstrip] at hhead
    simpa using hhead

theorem strip_eq_self_iff {rs : List Rune} :
    strip rs = rs ↔ rs.dropWhile Rune.isBlank = rs ∧ rs.rdropWhile Rune.isBlank = rs := by
  constructor
  · intro h
    have hends := strip_ends rs
    rwa [h] at hends
  · rintro ⟨hfront, hback⟩
    rw [strip, hfront, hback]

theorem runes_trim (s : Bytes) : runes (trim s) = strip (runes s) := by
  obtain ⟨p, q, hrs, -⟩ := exists_eq_append_strip_append (runes s)
  rw [List.append_assoc] at hrs
  have hrest := (runes_of_eq_append hrs).2
  exact (runes_of_eq_append hrest).1

theorem trim_trim (s : Bytes) : trim (trim s) = trim s := by
  rw [trim_eq_unrunes_strip (trim s), runes_trim, strip_eq_self_iff.2 (strip_ends _)]
  rfl

/-- Trimming removes blanks at the two ends: none of the bytes removed is printable ASCII. -/
theorem exists_eq_append_trim_append (s : Bytes) :
    ∃ u v, s = u ++ trim s ++ v ∧ ∀ b ∈ u ++ v, b ≤ 0x20 ∨ 0x80 ≤ b := by
  obtain ⟨p, q, hrs, hblank⟩ := exists_eq_append_strip_append (runes s)
  refine ⟨unrunes p, unrunes q, ?_, ?_⟩
  · rw [trim_eq_unrunes_strip, ← unrunes_append, ← unrunes_append, ← hrs, flatMap_raw_runes]
  · intro b hb
    rw [← unrunes_append] at hb
    obtain ⟨r, hr, hb⟩ := List.mem_flatMap.1 hb
    have hmem : r ∈ runes s := by
      rw [hrs]
      rcases List.mem_append.1 hr with hr | hr <;> simp [hr]
    rcases ascii_or_of_mem_runes hmem with ⟨c, hc, rfl⟩ | hbytes
    · obtain rfl : b = c := by simpa [asciiRune] using hb
      exact Or.inl (le_space_of_isBlank hc (hblank _ hr))
    · exact Or.inr (hbytes b hb)

theorem mem_of_mem_trim {s : Bytes} {b : UInt8} (h : b ∈ trim s) : b ∈ s := by
  obtain ⟨u, v, hs, -⟩ := exists_eq_append_trim_append s
  rw [hs]
  simp [h]

/-- A text is trimmed when neither its first nor its last rune is a blank. -/
theorem trim_eq_self_iff {s : Bytes} :
    trim s = s ↔ (∀ r ∈ (runes s).head?, r.isBlank = false) ∧
      ∀ r ∈ (runes s).getLast?, r.isBlank = false := by
  have hfront : (runes s).dropWhile Rune.isBlank = runes s ↔
      ∀ r ∈ (runes s).head?, r.isBlank = false := by
    cases runes s with
    | nil => simp
    | cons r rs =>
      have hshort := (List.dropWhile_suffix Rune.isBlank (l := rs)).length_le
      cases hr : r.isBlank with
      | false => simp [hr]
      | true =>
        simp only [List.dropWhile_cons_of_pos hr, List.head?_cons, Option.mem_some_iff, forall_eq', hr]
        refine iff_of_false (fun h => ?_) (by simp)
        rw [h, List.length_cons] at hshort
        omega
  have hback : (runes s).rdropWhile Rune.isBlank = runes s ↔
      ∀ r ∈ (runes s).getLast?, r.isBlank = false := by
    rw [List.rdropWhile_eq_self_iff]
    cases runes s with
    | nil => simp
    | cons r rs => simp [List.getLast?_eq_some_getLast]
  rw [← hfront, ← hback, ← strip_eq_self_iff]
  constructor
  · intro h
    rw [← runes_trim, h]
  · intro h
    rw [trim_eq_unrunes_strip, h, flatMap_raw_runes]

/-! ## §5 Padding -/

/-- A text of blanks. -/
def AllBlank (s : Bytes) : Prop := ∀ r ∈ runes s, r.isBlank = true

theorem isBlank_replacement (s : Bytes) : Rune.isBlank ⟨replacement, s⟩ = false := by
  show DocPages.isBlank replacement = false
  decide

/-- A text of blanks starts with no continuation byte. -/
theorem AllBlank.isTail_head {v : Bytes} (hv : AllBlank v) : ∀ b ∈ v.head?, isTail b = false := by
  cases v with
  | nil => simp
  | cons b v =>
    intro b' hb'
    obtain rfl : b = b' := by simpa using hb'
    cases htail : isTail b with
    | false => rfl
    | true =>
      -- it would be a malformed byte, which is no blank
      have hfirst : runes (b :: v) = ⟨replacement, [b]⟩ :: runes v :=
        runes_eq_cons (by simp [firstRune?, lead?_of_isTail htail])
      have := hv ⟨replacement, [b]⟩ (by simp [hfirst])
      simp [isBlank_replacement] at this

/-- Blanks are whole sequences, so they are read as before whatever follows them. -/
theorem AllBlank.runes_append {u : Bytes} (hu : AllBlank u) (s : Bytes) :
    runes (u ++ s) = runes u ++ runes s := by
  unfold AllBlank at hu
  generalize hrs : runes u = rs at hu
  induction rs generalizing u with
  | nil =>
    obtain rfl : u = [] := by rw [← flatMap_raw_runes u, hrs]; rfl
    rfl
  | cons r rs ih =>
    obtain ⟨rest, hfirst, hrest⟩ := firstRune?_of_runes_eq_cons hrs
    have hblanks : ∀ r ∈ rs, r.isBlank = true := fun r hr => hu r (List.mem_cons_of_mem _ hr)
    have hmore : firstRune? (u ++ s) = some (r, rest ++ s) := by
      rcases firstRune?_cases hfirst with ⟨a, tail, code, more, rfl, hlead, rfl, rfl⟩ | ⟨a, rfl, -, rfl⟩
      · obtain ⟨hlong, -, -⟩ := lead?_eq_some hlead
        simp [firstRune?, lead?_append_of_eq_some hlead, List.take_append_of_le_length hlong,
          List.drop_append_of_le_length hlong]
      · have := hu _ List.mem_cons_self
        simp [isBlank_replacement] at this
    rw [runes_eq_cons hmore, ih hrest hblanks, List.cons_append]

theorem rdropWhile_append_blanks (rs : List Rune) {q : List Rune} (hq : ∀ r ∈ q, r.isBlank = true) :
    (rs ++ q).rdropWhile Rune.isBlank = rs.rdropWhile Rune.isBlank := by
  rw [List.rdropWhile, List.rdropWhile, List.reverse_append,
    List.dropWhile_append_of_pos (by simpa using hq)]

/-- Blanks on both sides are stripped away. -/
theorem strip_pad {p q : List Rune} (rs : List Rune) (hp : ∀ r ∈ p, r.isBlank = true)
    (hq : ∀ r ∈ q, r.isBlank = true) : strip (p ++ rs ++ q) = strip rs := by
  rw [strip, strip, List.append_assoc, List.dropWhile_append_of_pos hp, List.dropWhile_append]
  -- the search from the front ends before the blanks behind, or there is nothing but blanks
  split
  · next hempty =>
    rw [List.isEmpty_iff] at hempty
    rw [hempty, List.dropWhile_eq_nil_iff.2 hq]
  · exact rdropWhile_append_blanks _ hq

/-- Blanks put around a text are trimmed away. -/
theorem trim_pad {u v : Bytes} (s : Bytes) (hu : AllBlank u) (hv : AllBlank v) :
    trim (u ++ s ++ v) = trim s := by
  rw [trim_eq_unrunes_strip, runes_append (u ++ s) hv.isTail_head, hu.runes_append, strip_pad _ hu hv]
  rfl

theorem allBlank_nil : AllBlank [] := by simp [AllBlank, runes, runesFrom]

theorem allBlank_singleton {b : UInt8} (hb : b < 0x80) (hblank : (asciiRune b).isBlank = true) :
    AllBlank [b] := by
  have hnil : runes [] = [] := rfl
  simpa [AllBlank, runes_cons hb, hnil] using hblank

theorem isBlank_space : (asciiRune (byte ' ')).isBlank = true := by decide

theorem trim_space_cons (s : Bytes) : trim (byte ' ' :: s) = trim s := by
  simpa using trim_pad s (allBlank_singleton (by decide) isBlank_space) allBlank_nil

/-- A blank of one byte at the end is trimmed away. -/
theorem trim_append_blank (s : Bytes) {b : UInt8} (hb : b < 0x80) (hblank : (asciiRune b).isBlank = true) :
    trim (s ++ [b]) = trim s := by
  simpa using trim_pad s allBlank_nil (allBlank_singleton hb hblank)

theorem trim_append_space (s : Bytes) : trim (s ++ [byte ' ']) = trim s :=
  trim_append_blank s (by decide) isBlank_space

theorem trim_append_space_ne (s : Bytes) : trim (s ++ [byte ' ']) ≠ s ++ [byte ' '] := by
  intro h
  have hlast := (trim_eq_self_iff.1 h).2 (asciiRune (byte ' ')) (by
    rw [runes_append_cons s (by decide)]
    simp [runes, runesFrom])
  simp [isBlank_space] at hlast

theorem trim_space_cons_ne (s : Bytes) : trim (byte ' ' :: s) ≠ byte ' ' :: s := by
  intro h
  have hfirst := (trim_eq_self_iff.1 h).1 (asciiRune (byte ' ')) (by
    rw [runes_cons (by decide)]
    simp)
  simp [isBlank_space] at hfirst

/-- Only the ends decide whether a text is trimmed: what stands between ASCII bytes may be changed. -/
theorem trim_eq_self_of_ends {x u y : Bytes} {b c : UInt8} (hx : x ≠ []) (hb : b < 0x80)
    (hc : c < 0x80) (h : trim (x ++ b :: y) = x ++ b :: y) :
    trim (x ++ c :: (u ++ b :: y)) = x ++ c :: (u ++ b :: y) := by
  obtain ⟨r, rs, hrs⟩ := List.exists_cons_of_ne_nil (runes_ne_nil hx)
  rw [trim_eq_self_iff, runes_append_cons x hb, hrs] at h
  rw [trim_eq_self_iff, runes_append_cons x hc, runes_append_cons u hb, hrs]
  refine ⟨h.1, fun r hr => h.2 r ?_⟩
  simpa [List.getLast?_append, List.getLast?_cons] using hr

/-- A last ASCII byte that is no blank stays the last one. -/
theorem suffix_trim_of_not_isBlank (s : Bytes) {b : UInt8} (hb : b < 0x80)
    (hblank : (asciiRune b).isBlank = false) : [b] <:+ trim (s ++ [b]) := by
  have hnil : runes [] = [] := rfl
  rw [trim_eq_unrunes_strip, runes_append_cons s hb, hnil, strip, List.dropWhile_append]
  split
  · rw [List.dropWhile_cons_of_neg (by simp [hblank]), List.rdropWhile_singleton,
      if_neg (by simp [hblank])]
    exact List.suffix_refl _
  · rw [List.rdropWhile_concat_neg _ _ _ (by simp [hblank]), unrunes_append]
    exact List.suffix_append _ _

end DocPages
