import Mathlib.Data.List.Basic
import DocPages.Bytes

/-!
# Laws of Cutting

Cutting a text and putting the parts together again are inverse to each other.

## Main results

- `Bytes.dropPrefix?_eq_some_iff`, `Bytes.dropSuffix?_eq_some_iff`: what is left without a known
  beginning or end
- `Bytes.cutFirst?_byte_eq_some_iff`, `Bytes.cutFirst?_byte_eq_none_iff`: the parts around the first
  occurrence of one byte
- `Bytes.cutLast?_byte_eq_some_iff`: the parts around its last occurrence
- `Bytes.cutFirst?_append_of_notMem`: a marker is not found where its first byte does not occur
- `Bytes.join_splitOn`, `Bytes.splitOn_join`: joining and splitting undo each other
- `bytes_space` and following: the marks of declarations as single bytes
-/

namespace DocPages

/-! ## §1 Marks -/

theorem bytes_space : bytes " " = [byte ' '] := rfl

theorem bytes_hash : bytes "#" = [byte '#'] := rfl

theorem bytes_dot : bytes "." = [byte '.'] := rfl

theorem bytes_comma : bytes "," = [byte ','] := rfl

theorem bytes_parenthesis : bytes "(" = [byte '('] ∧ bytes ")" = [byte ')'] := ⟨rfl, rfl⟩

theorem bytes_bracket : bytes "[" = [byte '['] ∧ bytes "]" = [byte ']'] := ⟨rfl, rfl⟩

namespace Bytes

/-- A hexadecimal digit has the value that it was written for. -/
theorem hexValue?_hexDigit {n : Nat} (hn : n < 16) : hexValue? (hexDigit n) = some n := by
  revert n
  decide

/-! ## §2 Cutting -/

/-- A text begins with `p` exactly when `p` can be put back in front of the rest. -/
theorem dropPrefix?_eq_some_iff {p s r : Bytes} : dropPrefix? p s = some r ↔ s = p ++ r := by
  induction p generalizing s with
  | nil => simp [dropPrefix?, eq_comm]
  | cons a p ih =>
    cases s with
    | nil => simp [dropPrefix?]
    | cons b s =>
      unfold dropPrefix?
      by_cases hab : a = b
      · simp [hab, ih]
      · simp [hab, Ne.symm hab]

theorem dropPrefix?_append (p q s : Bytes) :
    dropPrefix? (p ++ q) s = (dropPrefix? p s).bind (dropPrefix? q) := by
  apply Option.ext
  intro r
  simp only [Option.bind_eq_some_iff, dropPrefix?_eq_some_iff]
  constructor
  · rintro rfl
    exact ⟨q ++ r, by simp, rfl⟩
  · rintro ⟨_, rfl, rfl⟩
    simp

/-- A text loses the beginning `p` or nothing. -/
theorem trimPrefix_cases (p s : Bytes) : s = p ++ trimPrefix p s ∨ trimPrefix p s = s := by
  cases h : dropPrefix? p s with
  | none => exact Or.inr (by simp [trimPrefix, h])
  | some r => exact Or.inl (by simpa [trimPrefix, h] using dropPrefix?_eq_some_iff.1 h)

theorem trimPrefix_append (p s : Bytes) : trimPrefix p (p ++ s) = s := by
  simp [trimPrefix, dropPrefix?_eq_some_iff.2 rfl]

theorem trimPrefix_of_not_prefix {p s : Bytes} (h : ¬p <+: s) : trimPrefix p s = s := by
  rcases trimPrefix_cases p s with hs | hs
  · exact absurd ⟨_, hs.symm⟩ h
  · exact hs

theorem trimPrefix_of_notMem {b : UInt8} {s : Bytes} (h : b ∉ s) : trimPrefix [b] s = s :=
  trimPrefix_of_not_prefix fun hs => h (hs.subset List.mem_cons_self)

theorem trimPrefix_suffix (p s : Bytes) : trimPrefix p s <:+ s := by
  rcases trimPrefix_cases p s with hs | hs
  · exact ⟨p, hs.symm⟩
  · exact ⟨[], hs⟩

/-- An end that lacks the last byte of a known beginning is not touched when that is taken off. -/
theorem suffix_trimPrefix {p s e : Bytes} {b : UInt8} (hb : b ∉ e) (h : e <:+ s) :
    e <:+ trimPrefix (p ++ [b]) s := by
  rcases trimPrefix_cases (p ++ [b]) s with hs | hs
  · generalize trimPrefix (p ++ [b]) s = rest at hs ⊢
    rcases List.suffix_or_suffix_of_suffix h ⟨p ++ [b], hs.symm⟩ with hin | ⟨more, rfl⟩
    · exact hin
    · -- what the end has in front of the rest ends where the beginning ends
      obtain ⟨before, hbefore⟩ := h
      have hcut : before ++ more = p ++ [b] := by
        apply (List.append_left_inj rest).1
        rw [← hs, List.append_assoc, hbefore]
      rcases List.eq_nil_or_concat more with rfl | ⟨more, c, rfl⟩
      · exact List.suffix_refl rest
      · rw [List.concat_eq_append, ← List.append_assoc] at hcut
        obtain rfl : c = b := List.singleton_inj.1 (List.append_inj' hcut rfl).2
        simp at hb
  · rwa [hs]

theorem dropPrefix?_byte_cons (a b : UInt8) (s : Bytes) :
    dropPrefix? [a] (b :: s) = if a = b then some s else none := rfl

/-- A byte that occurs is cut at its first occurrence. -/
theorem cutFirst?_byte_eq_some_iff {b : UInt8} {s x y : Bytes} :
    cutFirst? [b] s = some (x, y) ↔ s = x ++ b :: y ∧ b ∉ x := by
  induction s generalizing x with
  | nil => simp [cutFirst?]
  | cons c s ih =>
    unfold cutFirst?
    rw [dropPrefix?_byte_cons]
    by_cases hbc : b = c
    · -- the text starts with the byte, so nothing can come before the cut
      subst hbc
      cases x with
      | nil => simp [eq_comm]
      | cons d x =>
        simp only [if_true, Option.some.injEq, Prod.mk.injEq, List.cons_append, List.cons.injEq,
          List.mem_cons, not_or]
        exact ⟨fun h => by simp at h, fun h => absurd h.1.1 h.2.1⟩
    · simp only [hbc, if_false, Option.map_eq_some_iff, Prod.exists, Prod.mk.injEq]
      constructor
      · rintro ⟨x', y', hcut, rfl, rfl⟩
        obtain ⟨hs, hx'⟩ := ih.1 hcut
        exact ⟨by simp [hs], by simp [hbc, hx']⟩
      · rintro ⟨hs, hx⟩
        cases x with
        | nil => exact absurd (List.cons.inj hs).1.symm hbc
        | cons d x' =>
          obtain ⟨rfl, hs'⟩ := List.cons.inj hs
          exact ⟨x', y, ih.2 ⟨hs', fun h => hx (List.mem_cons_of_mem _ h)⟩, rfl, rfl⟩

theorem cutFirst?_byte_eq_none_iff {b : UInt8} {s : Bytes} : cutFirst? [b] s = none ↔ b ∉ s := by
  induction s with
  | nil => simp [cutFirst?]
  | cons c s ih =>
    unfold cutFirst?
    rw [dropPrefix?_byte_cons]
    by_cases hbc : b = c
    · simp [hbc]
    · simp [hbc, ih]

theorem dropSuffix?_eq_some_iff {p s r : Bytes} : dropSuffix? p s = some r ↔ s = r ++ p := by
  simp only [dropSuffix?, Option.map_eq_some_iff, dropPrefix?_eq_some_iff]
  constructor
  · rintro ⟨t, ht, rfl⟩
    rw [← List.reverse_reverse s, ht]
    simp
  · rintro rfl
    exact ⟨r.reverse, by simp, by simp⟩

/-- Texts cut at the last occurrence of one byte agree in both parts. -/
theorem append_cons_inj_of_last {b : UInt8} {x₁ x₂ y₁ y₂ : Bytes} (h₁ : b ∉ y₁) (h₂ : b ∉ y₂)
    (h : x₁ ++ b :: y₁ = x₂ ++ b :: y₂) : x₁ = x₂ ∧ y₁ = y₂ := by
  rcases List.append_eq_append_iff.1 h with ⟨w, hx, hy⟩ | ⟨w, hx, hy⟩
  · cases w with
    | nil => simpa [eq_comm] using And.intro hx hy
    | cons c w =>
      obtain ⟨rfl, rfl⟩ := List.cons.inj hy
      simp at h₁
  · cases w with
    | nil => simpa [eq_comm] using And.intro hx hy
    | cons c w =>
      obtain ⟨rfl, rfl⟩ := List.cons.inj hy
      simp at h₂

theorem eq_append_of_cutLast?_byte {b : UInt8} {s x y : Bytes} (h : cutLast? [b] s = some (x, y)) :
    s = x ++ b :: y := by
  induction s generalizing x with
  | nil => simp [cutLast?] at h
  | cons c s ih =>
    unfold cutLast? at h
    split at h
    · next before after hcut =>
      obtain ⟨rfl, rfl⟩ : c :: before = x ∧ after = y := by simpa using h
      rw [ih hcut, List.cons_append]
    · rw [dropPrefix?_byte_cons] at h
      split at h
      · next hbc =>
        obtain ⟨rfl, rfl⟩ : [] = x ∧ s = y := by simpa using h
        rw [hbc, List.nil_append]
      · simp at h

theorem cutLast?_byte_eq_none_iff {b : UInt8} {s : Bytes} : cutLast? [b] s = none ↔ b ∉ s := by
  induction s with
  | nil => simp [cutLast?]
  | cons c s ih =>
    unfold cutLast?
    rw [dropPrefix?_byte_cons]
    cases hcut : cutLast? [b] s with
    | none => by_cases hbc : b = c <;> simp [hbc, ih.1 hcut]
    | some p =>
      have hs : b ∈ s := by
        rw [eq_append_of_cutLast?_byte hcut]
        simp
      simp [hs]

/-- A byte that occurs is cut at its last occurrence. -/
theorem cutLast?_byte_eq_some_iff {b : UInt8} {s x y : Bytes} :
    cutLast? [b] s = some (x, y) ↔ s = x ++ b :: y ∧ b ∉ y := by
  have hlast : ∀ {s x y}, cutLast? [b] s = some (x, y) → b ∉ y := by
    intro s
    induction s with
    | nil => simp [cutLast?]
    | cons c s ih =>
      intro x y h
      unfold cutLast? at h
      split at h
      · next before after hcut =>
        obtain ⟨-, rfl⟩ : c :: before = x ∧ after = y := by simpa using h
        exact ih hcut
      · -- nothing was found behind `c`, so nothing is behind the cut
        next hnone =>
        rw [dropPrefix?_byte_cons] at h
        split at h
        · obtain ⟨-, rfl⟩ : [] = x ∧ s = y := by simpa using h
          exact cutLast?_byte_eq_none_iff.1 hnone
        · simp at h
  refine ⟨fun h => ⟨eq_append_of_cutLast?_byte h, hlast h⟩, ?_⟩
  rintro ⟨rfl, hy⟩
  cases hcut : cutLast? [b] (x ++ b :: y) with
  | none => exact absurd (cutLast?_byte_eq_none_iff.1 hcut) (by simp)
  | some p =>
    obtain ⟨rfl, rfl⟩ := append_cons_inj_of_last hy (hlast hcut) (eq_append_of_cutLast?_byte hcut)
    rfl

/-! ## §3 Markers of several bytes -/

theorem cutFirst?_append_of_notMem {c : UInt8} {m x : Bytes} (hx : c ∉ x) (y : Bytes) :
    cutFirst? (c :: m) (x ++ y) = (cutFirst? (c :: m) y).map fun p => (x ++ p.1, p.2) := by
  induction x with
  | nil => simp
  | cons b x ih =>
    have hbc : c ≠ b := fun h => hx (by simp [h])
    have hrest := ih fun h => hx (List.mem_cons_of_mem _ h)
    simp [cutFirst?, dropPrefix?, hbc, hrest, Function.comp_def]

theorem cutFirst?_self_append (c : UInt8) (m y : Bytes) :
    cutFirst? (c :: m) (c :: (m ++ y)) = some ([], y) := by
  have hdrop : dropPrefix? (c :: m) (c :: (m ++ y)) = some y := dropPrefix?_eq_some_iff.2 rfl
  simp [cutFirst?, hdrop]

theorem cutFirst?_cons_of_dropPrefix?_eq_none {m s : Bytes} {b : UInt8}
    (h : dropPrefix? m (b :: s) = none) :
    cutFirst? m (b :: s) = (cutFirst? m s).map fun p => (b :: p.1, p.2) := by
  simp [cutFirst?, h]

theorem eq_append_of_cutFirst? {m s x y : Bytes} (h : cutFirst? m s = some (x, y)) :
    s = x ++ m ++ y := by
  induction s generalizing x with
  | nil =>
    obtain ⟨hm, rfl, rfl⟩ : m = [] ∧ [] = x ∧ [] = y := by simpa [cutFirst?] using h
    simp [hm]
  | cons b s ih =>
    unfold cutFirst? at h
    split at h
    · next rest hdrop =>
      obtain ⟨rfl, rfl⟩ : [] = x ∧ rest = y := by simpa using h
      simpa using dropPrefix?_eq_some_iff.1 hdrop
    · obtain ⟨⟨x', y'⟩, hcut, hxy⟩ := Option.map_eq_some_iff.1 h
      obtain ⟨rfl, rfl⟩ : b :: x' = x ∧ y' = y := by simpa using hxy
      rw [ih hcut]
      simp

/-- A marker that begins the text is the one that is replaced. -/
theorem replaceFirst_self_append {m : Bytes} (hm : m ≠ []) (r y : Bytes) :
    replaceFirst m r (m ++ y) = r ++ y := by
  obtain ⟨c, m, rfl⟩ := List.exists_cons_of_ne_nil hm
  simp [replaceFirst, cutFirst?_self_append]

/-- Taking out a marker takes out its bytes, wherever its first occurrence is. -/
theorem replaceFirst_nil_cases (m s : Bytes) :
    replaceFirst m [] s = s ∨
      ∀ b, (replaceFirst m [] s).count b + m.count b = s.count b := by
  unfold replaceFirst
  split
  · next x y hcut =>
    right
    intro b
    rw [eq_append_of_cutFirst? hcut]
    simp only [List.append_nil, List.count_append]
    omega
  · exact Or.inl rfl

/-! ## §4 Splitting and joining -/

theorem splitOn_ne_nil (sep : UInt8) (s : Bytes) : splitOn sep s ≠ [] := by
  cases s with
  | nil => simp [splitOn]
  | cons b s =>
    unfold splitOn
    split
    · simp
    · split <;> simp

theorem splitOn_of_notMem {sep : UInt8} {x : Bytes} (hx : sep ∉ x) : splitOn sep x = [x] := by
  induction x with
  | nil => rfl
  | cons b x ih =>
    have hb : b ≠ sep := fun h => hx (by simp [h])
    have hrest := ih fun h => hx (List.mem_cons_of_mem _ h)
    simp [splitOn, hb, hrest]

/-- The pieces around any separator are the pieces before it and the pieces after it. -/
theorem splitOn_append_sep (sep : UInt8) (x y : Bytes) :
    splitOn sep (x ++ sep :: y) = splitOn sep x ++ splitOn sep y := by
  induction x with
  | nil => simp [splitOn]
  | cons b x ih =>
    by_cases hb : b = sep
    · simp [splitOn, hb, ih]
    · obtain ⟨piece, more, hx⟩ := List.exists_cons_of_ne_nil (splitOn_ne_nil sep x)
      simp [splitOn, hb, ih, hx]

theorem splitOn_append_cons {sep : UInt8} {x : Bytes} (hx : sep ∉ x) (y : Bytes) :
    splitOn sep (x ++ sep :: y) = x :: splitOn sep y := by
  rw [splitOn_append_sep, splitOn_of_notMem hx, List.singleton_append]

/-- Splitting a text that starts with another byte than the separator only changes the first piece. -/
theorem splitOn_cons_of_ne {sep b : UInt8} (hb : b ≠ sep) (s : Bytes) :
    ∃ piece more, splitOn sep s = piece :: more ∧ splitOn sep (b :: s) = (b :: piece) :: more := by
  obtain ⟨piece, more, hs⟩ := List.exists_cons_of_ne_nil (splitOn_ne_nil sep s)
  exact ⟨piece, more, hs, by simp [splitOn, hb, hs]⟩

/-- There is one piece more than there are separators. -/
theorem length_splitOn (sep : UInt8) (s : Bytes) : (splitOn sep s).length = s.count sep + 1 := by
  induction s with
  | nil => rfl
  | cons b s ih =>
    by_cases hb : b = sep
    · simp [splitOn, hb, ih]
    · obtain ⟨piece, more, hs, hcons⟩ := splitOn_cons_of_ne hb s
      rw [hcons, List.count_cons_of_ne hb, ← ih, hs]
      rfl

/-- The pieces have all bytes but the separators. -/
theorem flatten_splitOn (sep : UInt8) (s : Bytes) :
    (splitOn sep s).flatten = s.filter (· != sep) := by
  induction s with
  | nil => rfl
  | cons b s ih =>
    by_cases hb : b = sep
    · simp [splitOn, hb, ih]
    · obtain ⟨piece, more, hs, hcons⟩ := splitOn_cons_of_ne hb s
      rw [hcons, List.filter_cons_of_pos (by simpa using hb), ← ih, hs]
      rfl

theorem notMem_of_mem_splitOn {sep : UInt8} {s piece : Bytes} (h : piece ∈ splitOn sep s) :
    sep ∉ piece := by
  induction s generalizing piece with
  | nil => simp_all [splitOn]
  | cons b s ih =>
    by_cases hb : b = sep
    · simp only [splitOn, hb, if_true, List.mem_cons] at h
      rcases h with rfl | h
      · simp
      · exact ih h
    · obtain ⟨first, more, hs, hcons⟩ := splitOn_cons_of_ne hb s
      rw [hcons, List.mem_cons] at h
      rcases h with rfl | h
      · simp [Ne.symm hb, ih (hs ▸ List.mem_cons_self)]
      · exact ih (hs ▸ List.mem_cons_of_mem _ h)

theorem join_cons (sep x : Bytes) (xs : List Bytes) :
    join sep (x :: xs) = x ++ xs.flatMap fun y => sep ++ y := by
  induction xs generalizing x with
  | nil => simp [join]
  | cons y xs ih => simp [join, ih]

/-- A byte of a joined text stands in a separator or in one of the pieces. -/
theorem mem_join {sep : Bytes} {xs : List Bytes} {b : UInt8} (h : b ∈ join sep xs) :
    b ∈ sep ∨ ∃ x ∈ xs, b ∈ x := by
  cases xs with
  | nil => simp [join] at h
  | cons y ys =>
    rw [join_cons, List.mem_append, List.mem_flatMap] at h
    rcases h with h | ⟨x, hx, h⟩
    · exact Or.inr ⟨y, List.mem_cons_self, h⟩
    · exact (List.mem_append.1 h).imp id fun h => ⟨x, List.mem_cons_of_mem _ hx, h⟩

/-- Every piece stands in the joined text. -/
theorem infix_join_of_mem {sep x : Bytes} {xs : List Bytes} (hx : x ∈ xs) : x <:+: join sep xs := by
  cases xs with
  | nil => simp at hx
  | cons y ys =>
    rw [join_cons]
    rcases List.mem_cons.1 hx with rfl | hx
    · exact (List.prefix_append x _).isInfix
    · obtain ⟨before, after, rfl⟩ := List.append_of_mem hx
      refine ⟨y ++ before.flatMap (fun z => sep ++ z) ++ sep, after.flatMap fun z => sep ++ z, ?_⟩
      simp

theorem mem_join_of_mem {sep x : Bytes} {xs : List Bytes} (hx : x ∈ xs) {b : UInt8} (hb : b ∈ x) :
    b ∈ join sep xs :=
  (infix_join_of_mem hx).subset hb

/-- Splitting undoes joining when no piece has the separator in it. -/
theorem splitOn_join {sep : UInt8} {xs : List Bytes} (hne : xs ≠ []) (hfree : ∀ x ∈ xs, sep ∉ x) :
    splitOn sep (join [sep] xs) = xs := by
  induction xs with
  | nil => exact absurd rfl hne
  | cons x rest ih =>
    cases rest with
    | nil => exact splitOn_of_notMem (hfree x List.mem_cons_self)
    | cons y more =>
      have hjoin : join [sep] (x :: y :: more) = x ++ sep :: join [sep] (y :: more) := by
        simp [join]
      rw [hjoin, splitOn_append_cons (hfree x List.mem_cons_self),
        ih (by simp) fun z hz => hfree z (List.mem_cons_of_mem _ hz)]

/-- Joining undoes splitting. -/
theorem join_splitOn (sep : UInt8) (s : Bytes) : join [sep] (splitOn sep s) = s := by
  induction s with
  | nil => rfl
  | cons b s ih =>
    by_cases hb : b = sep
    · obtain ⟨piece, more, hs⟩ := List.exists_cons_of_ne_nil (splitOn_ne_nil sep s)
      rw [hs] at ih
      simp [splitOn, hb, hs, join, ih]
    · obtain ⟨piece, more, hs, hcons⟩ := splitOn_cons_of_ne hb s
      rw [hs, join_cons] at ih
      rw [hcons, join_cons, List.cons_append, ih]

end Bytes

end DocPages
