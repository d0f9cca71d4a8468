import Mathlib.Data.List.Infix
import DocPages.Page.Site

/-!
# Filling Templates

A template is filled by one pass over its bytes.  What the pass does is said here without it: a template
is cut into literal runs, in which no placeholder occurs, and the placeholders between them, and filling
keeps the runs and puts a value in the place of each placeholder.  There is always such a cut.  That there
is only one rests on the placeholders: no two of them overlap, and none begins or ends inside another
(`Separable`).  The placeholders of pages are of that kind, whatever values they are given.

## Main results

- `Factorisation`, `Factorisation.Factors`: a template cut into runs and placeholders
- `Separable.not_startsIn`: no placeholder begins in a literal run
- `exists_factors`, `Factorisation.Factors.unique`: there is one cut
- `Factorisation.Factors.fill_eq`: filling keeps the runs and replaces the placeholders
- `Factorisation.Factors.append`: cuts are put together where no placeholder straddles the boundary
- `fill_substitutes_placeholders`: the pages of a site are filled so
-/

namespace DocPages

/-! ## §1 Runs and placeholders -/

/-- No placeholder occurs in the text. -/
def Free (keys : List Bytes) (s : Bytes) : Prop := ∀ k ∈ keys, ¬k <:+: s

/-- A placeholder stands at the beginning of the text. -/
def StartsIn (keys : List Bytes) (s : Bytes) : Prop := ∃ k ∈ keys, k <+: s

/-- A placeholder begins in the first text and ends in the second when they are put together. -/
def Straddles (keys : List Bytes) (a b : Bytes) : Prop :=
  ∃ u v, u ≠ [] ∧ v ≠ [] ∧ u ++ v ∈ keys ∧ u <:+ a ∧ v <+: b

/-- Placeholders that never share a byte of a text: where one begins inside another or at its first byte,
    the two are the same. -/
def Separable (keys : List Bytes) : Prop :=
  ∀ k ∈ keys, k ≠ [] ∧ ∀ k' ∈ keys, ∀ i < k.length,
    k.drop i <+: k' ∨ k' <+: k.drop i → i = 0 ∧ k = k'

instance (keys : List Bytes) (s : Bytes) : Decidable (Free keys s) :=
  inferInstanceAs (Decidable (∀ k ∈ keys, _))

instance (keys : List Bytes) : Decidable (Separable keys) :=
  inferInstanceAs (Decidable (∀ k ∈ keys, _))

/-- A template cut into literal runs with a placeholder between any two of them. -/
inductive Factorisation where
  /-- The run behind the last placeholder. -/
  | run (literal : Bytes)
  /-- A run, the placeholder behind it, and what follows. -/
  | cut (literal placeholder : Bytes) (rest : Factorisation)
  deriving DecidableEq, Repr

namespace Factorisation

/-- The template that was cut. -/
def text : Factorisation → Bytes
  | run literal => literal
  | cut literal placeholder rest => literal ++ (placeholder ++ rest.text)

/-- The template with a value in the place of each placeholder. -/
def filled (value : Bytes → Bytes) : Factorisation → Bytes
  | run literal => literal
  | cut literal placeholder rest => literal ++ (value placeholder ++ rest.filled value)

/-- The runs are free of placeholders, and nothing else than placeholders stands between them. -/
def Fits (keys : List Bytes) : Factorisation → Prop
  | run literal => Free keys literal
  | cut literal placeholder rest => Free keys literal ∧ placeholder ∈ keys ∧ rest.Fits keys

instance decidableFits (keys : List Bytes) : (f : Factorisation) → Decidable (f.Fits keys)
  | run literal => inferInstanceAs (Decidable (Free keys literal))
  | cut literal placeholder rest =>
    have := decidableFits keys rest
    inferInstanceAs (Decidable (Free keys literal ∧ placeholder ∈ keys ∧ rest.Fits keys))

/-- Puts two cut templates together; the runs at the boundary become one. -/
def append : Factorisation → Factorisation → Factorisation
  | run literal, run literal' => run (literal ++ literal')
  | run literal, cut literal' placeholder rest => cut (literal ++ literal') placeholder rest
  | cut literal placeholder rest, g => cut literal placeholder (rest.append g)

/-- A cut of this template at these placeholders. -/
structure Factors (keys : List Bytes) (template : Bytes) (f : Factorisation) : Prop where
  text_eq : f.text = template
  fits : f.Fits keys

end Factorisation

variable {keys : List Bytes}

/-! ## §2 Where placeholders begin -/

theorem Free.of_infix {s t : Bytes} (h : Free keys t) (hs : s <:+: t) : Free keys s :=
  fun k hk hks => h k hk (hks.trans hs)

theorem Free.not_startsIn {s : Bytes} (h : Free keys s) : ¬StartsIn keys s := by
  rintro ⟨k, hk, hks⟩
  exact h k hk hks.isInfix

/-- Two texts without placeholders have none together either, unless one straddles the boundary. -/
theorem Free.append {a b : Bytes} (ha : Free keys a) (hb : Free keys b) (h : ¬Straddles keys a b) :
    Free keys (a ++ b) := by
  rintro k hk ⟨x, y, hxy⟩
  rw [List.append_assoc] at hxy
  rcases List.append_eq_append_iff.1 hxy with ⟨u, rfl, hu⟩ | ⟨w, rfl, rfl⟩
  · rcases List.append_eq_append_iff.1 hu with ⟨w, rfl, rfl⟩ | ⟨v, rfl, rfl⟩
    · exact ha k hk ⟨x, w, by simp⟩
    -- the occurrence begins at the boundary, ends there, or straddles it
    by_cases hu : u = []
    · subst hu
      exact hb v (by simpa using hk) ⟨[], y, rfl⟩
    by_cases hv : v = []
    · subst hv
      exact ha u (by simpa using hk) ⟨x, [], by simp⟩
    · exact h ⟨u, v, hu, hv, hk, ⟨x, rfl⟩, ⟨y, rfl⟩⟩
  · exact hb k hk ⟨w, y, by simp⟩

namespace Separable

/-- At most one placeholder stands at the beginning of a text. -/
theorem eq_of_prefix (h : Separable keys) {k k' s : Bytes} (hk : k ∈ keys) (hk' : k' ∈ keys)
    (hs : k <+: s) (hs' : k' <+: s) : k = k' := by
  have hpos : 0 < k.length := List.length_pos_iff.2 (h k hk).1
  have hcompare : k.drop 0 <+: k' ∨ k' <+: k.drop 0 := List.prefix_or_prefix_of_prefix hs hs'
  exact ((h k hk).2 k' hk' 0 hpos hcompare).2

/-- No placeholder begins in a literal run, also none that would end in the placeholder behind it. -/
theorem not_startsIn (h : Separable keys) {t k : Bytes} (ht : t ≠ []) (hfree : Free keys t)
    (hk : k ∈ keys) (rest : Bytes) : ¬StartsIn keys (t ++ (k ++ rest)) := by
  rintro ⟨k', hk', hprefix⟩
  rcases List.prefix_or_prefix_of_prefix hprefix (List.prefix_append t _) with hinside | ⟨u, rfl⟩
  · exact hfree k' hk' hinside.isInfix
  · -- what reaches over the end of the run begins like the placeholder there, or the other way round
    have hu : u <+: k ++ rest := (List.prefix_append_right_inj t).1 hprefix
    have hcompare := List.prefix_or_prefix_of_prefix hu (List.prefix_append k rest)
    have hlength : t.length < (t ++ u).length := by
      have hne : u ≠ [] := by
        rintro rfl
        exact hfree (t ++ []) hk' (by simp)
      have hpos := List.length_pos_iff.2 hne
      rw [List.length_append]
      omega
    have hzero := ((h (t ++ u) hk').2 k hk t.length hlength (by simpa using hcompare)).1
    exact ht (List.length_eq_zero_iff.1 hzero)

end Separable

/-! ## §3 There is one cut -/

namespace Factorisation

/-- Every template can be cut: at a placeholder that it begins with, or else behind its first byte. -/
theorem exists_factors (hne : ∀ k ∈ keys, k ≠ []) (template : Bytes) :
    ∃ f : Factorisation, f.Factors keys template := by
  induction hn : template.length using Nat.strong_induction_on generalizing template with
  | _ n ih =>
    by_cases hstart : StartsIn keys template
    · obtain ⟨k, hk, rest, rfl⟩ := hstart
      have hpos := List.length_pos_iff.2 (hne k hk)
      rw [List.length_append] at hn
      obtain ⟨f, hf⟩ := ih rest.length (by omega) rest rfl
      refine ⟨cut [] k f, by rw [text, hf.text_eq, List.nil_append], fun k' hk' hnil => ?_, hk, hf.fits⟩
      exact hne k' hk' (List.infix_nil.1 hnil)
    cases template with
    | nil => exact ⟨run [], rfl, fun k hk hnil => hne k hk (List.infix_nil.1 hnil)⟩
    | cons b template =>
      -- the byte goes to the front of the first run, and no placeholder begins with it
      have hbyte : ∀ {l : Bytes}, Free keys l → b :: l <+: b :: template → Free keys (b :: l) := by
        intro l hl hprefix k hk hpart
        rcases List.infix_cons_iff.1 hpart with hstart' | hpart
        · exact hstart ⟨k, hk, hstart'.trans hprefix⟩
        · exact hl k hk hpart
      rw [List.length_cons] at hn
      obtain ⟨f, rfl, hfits⟩ := ih template.length (by omega) template rfl
      cases f with
      | run l => exact ⟨run (b :: l), rfl, hbyte hfits (List.prefix_refl _)⟩
      | cut l k rest =>
        obtain ⟨hl, hk, hrest⟩ := hfits
        exact ⟨cut (b :: l) k rest, rfl, hbyte hl (by simp [text]), hk, hrest⟩

variable {template : Bytes} {f g : Factorisation}

/-- A template with a cut at a placeholder is not free of placeholders. -/
theorem not_free_text {l k : Bytes} (hk : k ∈ keys) : ¬Free keys (cut l k f).text :=
  fun hfree => hfree k hk ⟨l, f.text, by simp [text]⟩

/-- The first runs of two cuts of one template are equally long. -/
theorem length_le_of_text_eq (h : Separable keys) {l k l' k' : Bytes} (hk : k ∈ keys)
    (hfree' : Free keys l') (hk' : k' ∈ keys) (htext : (cut l k f).text = (cut l' k' g).text) :
    l'.length ≤ l.length := by
  by_contra hlt
  -- otherwise the first placeholder of one cut begins in the first run of the other
  rw [text, text] at htext
  rcases List.append_eq_append_iff.1 htext with ⟨t, rfl, ht⟩ | ⟨t, rfl, ht⟩
  · have hne : t ≠ [] := by
      rintro rfl
      simp at hlt
    have hstart : StartsIn keys (t ++ (k' ++ g.text)) := ⟨k, hk, f.text, ht⟩
    have hfree : Free keys t := hfree'.of_infix (List.suffix_append l t).isInfix
    exact h.not_startsIn hne hfree hk' g.text hstart
  · simp at hlt

/-- A template can be cut in one way only. -/
theorem Factors.unique (h : Separable keys) (hf : f.Factors keys template)
    (hg : g.Factors keys template) : f = g := by
  obtain ⟨htext, hfits⟩ := hf
  obtain ⟨htext', hfits'⟩ := hg
  induction f generalizing g template with
  | run l =>
    cases g with
    | run l' => rw [show l = l' from htext.trans htext'.symm]
    | cut l' k' g =>
      have hfree : Free keys (run l).text := hfits
      rw [htext, ← htext'] at hfree
      exact absurd hfree (not_free_text hfits'.2.1)
  | cut l k f ih =>
    obtain ⟨hl, hk, hrest⟩ := hfits
    cases g with
    | run l' =>
      have hfree : Free keys (run l').text := hfits'
      rw [htext', ← htext] at hfree
      exact absurd hfree (not_free_text hk)
    | cut l' k' g =>
      obtain ⟨hl', hk', hrest'⟩ := hfits'
      have heq : (cut l k f).text = (cut l' k' g).text := htext.trans htext'.symm
      have hlength : l.length = l'.length := Nat.le_antisymm
        (length_le_of_text_eq h hk' hl hk heq.symm) (length_le_of_text_eq h hk hl' hk' heq)
      obtain ⟨rfl, htail⟩ := List.append_inj heq hlength
      obtain rfl := h.eq_of_prefix hk hk' ⟨f.text, rfl⟩ ⟨g.text, htail.symm⟩
      rw [ih rfl hrest (List.append_cancel_left htail).symm hrest']

/-- Cuts of two templates are put together to a cut of both, unless a placeholder straddles the
    boundary. -/
theorem Factors.append {a b : Bytes} (hf : f.Factors keys a) (hg : g.Factors keys b)
    (h : ¬Straddles keys a b) : (f.append g).Factors keys (a ++ b) := by
  obtain ⟨rfl, hfits⟩ := hf
  obtain ⟨rfl, hfits'⟩ := hg
  induction f with
  | run l =>
    cases g with
    | run l' => exact ⟨rfl, hfits.append hfits' h⟩
    | cut l' k g =>
      refine ⟨by simp [Factorisation.append, text], hfits.append hfits'.1 ?_, hfits'.2⟩
      rintro ⟨u, v, hu, hv, huv, hsuffix, hprefix⟩
      exact h ⟨u, v, hu, hv, huv, hsuffix, hprefix.trans (List.prefix_append _ _)⟩
  | cut l k f ih =>
    have hrest : ¬Straddles keys f.text g.text := by
      rintro ⟨u, v, hu, hv, huv, hsuffix, hprefix⟩
      refine h ⟨u, v, hu, hv, huv, hsuffix.trans ⟨l ++ k, by simp [text]⟩, hprefix⟩
    obtain ⟨htext, hfits''⟩ := ih hfits.2.2 hrest
    exact ⟨by simp [Factorisation.append, text, htext], hfits.1, hfits.2.1, hfits''⟩

theorem filled_append (value : Bytes → Bytes) (f g : Factorisation) :
    (f.append g).filled value = f.filled value ++ g.filled value := by
  induction f with
  | run l => cases g <;> simp [Factorisation.append, filled]
  | cut l k f ih => simp [Factorisation.append, filled, ih]

end Factorisation

/-! ## §4 The pass over a template -/

/-- The value that a placeholder is given. -/
def valueOf (values : List (Bytes × Bytes)) (key : Bytes) : Bytes := (values.lookup key).getD []

theorem valueOf_of_mem {values : List (Bytes × Bytes)} (hnodup : (values.map Prod.fst).Nodup)
    {k v : Bytes} (h : (k, v) ∈ values) : valueOf values k = v := by
  unfold valueOf
  induction values with
  | nil => simp at h
  | cons entry rest ih =>
    obtain ⟨k', v'⟩ := entry
    rw [List.map_cons, List.nodup_cons] at hnodup
    rcases List.mem_cons.1 h with heq | hmem
    · obtain ⟨rfl, rfl⟩ := Prod.mk.inj heq
      simp
    · have hne : k ≠ k' := by
        rintro rfl
        exact hnodup.1 (List.mem_map.2 ⟨(k, v), hmem, rfl⟩)
      simp [List.lookup_cons, beq_false_of_ne hne, ih hnodup.2 hmem]

section Pass

variable {pairs : List (Bytes × Bytes)}

theorem firstMatch?_of_not_startsIn {s : Bytes} (h : ¬StartsIn (pairs.map Prod.fst) s) :
    firstMatch? s pairs = none := by
  induction pairs with
  | nil => rfl
  | cons entry rest ih =>
    obtain ⟨k, v⟩ := entry
    have hk : k.isPrefixOf s = false := by
      rw [← Bool.not_eq_true, List.isPrefixOf_iff_prefix]
      exact fun hprefix => h ⟨k, by simp, hprefix⟩
    have hrest : ¬StartsIn (rest.map Prod.fst) s := by
      rintro ⟨k', hk', hprefix⟩
      exact h ⟨k', by simp only [List.map_cons, List.mem_cons, hk', or_true], hprefix⟩
    simp [firstMatch?, hk, ih hrest]

/-- Where one placeholder stands, its value is found. -/
theorem firstMatch?_of_prefix {s k : Bytes} (hk : k ∈ pairs.map Prod.fst) (hne : k ≠ [])
    (hs : k <+: s) (honly : ∀ k' ∈ pairs.map Prod.fst, k' <+: s → k' = k) :
    firstMatch? s pairs = some (valueOf pairs k, k.length - 1) := by
  induction pairs with
  | nil => simp at hk
  | cons entry rest ih =>
    obtain ⟨k', v⟩ := entry
    by_cases heq : k' = k
    · subst heq
      have hprefix : k'.isPrefixOf s = true := List.isPrefixOf_iff_prefix.2 hs
      simp [firstMatch?, hprefix, hne, valueOf]
    · have hother : k'.isPrefixOf s = false := by
        rw [← Bool.not_eq_true, List.isPrefixOf_iff_prefix]
        exact fun hprefix => heq (honly k' (by simp) hprefix)
      have hmem : k ∈ rest.map Prod.fst := by
        rw [List.map_cons, List.mem_cons] at hk
        exact hk.resolve_left (Ne.symm heq)
      have hrest := ih hmem fun j hj => honly j (by simp only [List.map_cons, List.mem_cons, hj, or_true])
      simp [firstMatch?, hother, hrest, valueOf, List.lookup_cons, beq_false_of_ne (Ne.symm heq)]

theorem fillFrom_length (x rest : Bytes) :
    fillFrom [] pairs x.length (x ++ rest) = fillFrom [] pairs 0 rest := by
  induction x with
  | nil => rfl
  | cons b x ih => exact ih

/-- A run in which no placeholder begins is kept. -/
theorem fillFrom_run {l rest : Bytes}
    (h : ∀ t, t ≠ [] → t <:+ l → ¬StartsIn (pairs.map Prod.fst) (t ++ rest)) :
    fillFrom [] pairs 0 (l ++ rest) = l ++ fillFrom [] pairs 0 rest := by
  induction l with
  | nil => rfl
  | cons b l ih =>
    have hfirst : firstMatch? (b :: (l ++ rest)) pairs = none :=
      firstMatch?_of_not_startsIn (h (b :: l) (by simp) (List.suffix_refl _))
    have hrest := ih fun t ht hsuffix => h t ht (hsuffix.trans (List.suffix_cons b l))
    simp [fillFrom, hfirst, hrest]

/-- A placeholder is replaced by its value. -/
theorem fillFrom_placeholder (h : Separable (pairs.map Prod.fst)) {k : Bytes}
    (hk : k ∈ pairs.map Prod.fst) (rest : Bytes) :
    fillFrom [] pairs 0 (k ++ rest) = valueOf pairs k ++ fillFrom [] pairs 0 rest := by
  have hne := (h k hk).1
  have hmatch := firstMatch?_of_prefix hk hne (List.prefix_append k rest)
    fun k' hk' hprefix => h.eq_of_prefix hk' hk hprefix (List.prefix_append k rest)
  cases k with
  | nil => exact absurd rfl hne
  | cons b k =>
    rw [List.cons_append] at hmatch
    simp only [List.cons_append, fillFrom, hmatch, List.nil_append, List.length_cons,
      Nat.add_sub_cancel]
    rw [fillFrom_length]

/-- The pass keeps the runs of a cut template and replaces its placeholders. -/
theorem fillFrom_text (h : Separable (pairs.map Prod.fst)) {f : Factorisation}
    (hf : f.Fits (pairs.map Prod.fst)) :
    fillFrom [] pairs 0 f.text = f.filled (valueOf pairs) := by
  induction f with
  | run l =>
    have hfree : Free (pairs.map Prod.fst) l := hf
    have hrun : fillFrom [] pairs 0 (l ++ []) = l ++ fillFrom [] pairs 0 [] := by
      apply fillFrom_run
      intro t _ hsuffix
      rw [List.append_nil]
      exact (hfree.of_infix hsuffix.isInfix).not_startsIn
    have hend : fillFrom [] pairs 0 [] = [] := rfl
    rwa [List.append_nil, hend, List.append_nil] at hrun
  | cut l k f ih =>
    obtain ⟨hfree, hk, hrest⟩ := hf
    have hrun : fillFrom [] pairs 0 (l ++ (k ++ f.text)) =
        l ++ fillFrom [] pairs 0 (k ++ f.text) := by
      apply fillFrom_run
      intro t ht hsuffix
      exact h.not_startsIn ht (hfree.of_infix hsuffix.isInfix) hk f.text
    rw [Factorisation.text, hrun, fillFrom_placeholder h hk, ih hrest]
    rfl

end Pass

/-! ## §5 The order of the placeholders -/

section Order

variable {keys' : List Bytes} (hperm : keys.Perm keys')
include hperm

theorem Separable.perm (h : Separable keys) : Separable keys' := by
  intro k hk
  obtain ⟨hne, hother⟩ := h k (hperm.mem_iff.2 hk)
  exact ⟨hne, fun k' hk' => hother k' (hperm.mem_iff.2 hk')⟩

/-- How a template is cut depends on which placeholders there are, not on their order. -/
theorem Factorisation.Fits.perm {f : Factorisation} (h : f.Fits keys) : f.Fits keys' := by
  have hfree : ∀ {s}, Free keys s → Free keys' s := fun hs k hk => hs k (hperm.mem_iff.2 hk)
  induction f with
  | run l => exact hfree h
  | cut l k f ih => exact ⟨hfree h.1, hperm.mem_iff.1 h.2.1, ih h.2.2⟩

end Order

theorem Factorisation.Fits.filled_congr {f : Factorisation} (h : f.Fits keys) {v v' : Bytes → Bytes}
    (hv : ∀ k ∈ keys, v k = v' k) : f.filled v = f.filled v' := by
  induction f with
  | run l => rfl
  | cut l k f ih => rw [Factorisation.filled, Factorisation.filled, hv k h.2.1, ih h.2.2]

/-- Values with different placeholders may be listed in any order. -/
theorem valueOf_perm {values pairs : List (Bytes × Bytes)} (hperm : values.Perm pairs)
    (hnodup : (values.map Prod.fst).Nodup) {k : Bytes} (hk : k ∈ values.map Prod.fst) :
    valueOf values k = valueOf pairs k := by
  obtain ⟨⟨k, v⟩, hmem, rfl⟩ := List.mem_map.1 hk
  rw [valueOf_of_mem hnodup hmem,
    valueOf_of_mem ((hperm.map Prod.fst).nodup_iff.1 hnodup) (hperm.mem_iff.1 hmem)]

theorem lookup_eq_none_of_notMem {values : List (Bytes × Bytes)} {k : Bytes}
    (h : k ∉ values.map Prod.fst) : values.lookup k = none := by
  rw [List.lookup_eq_none_iff]
  intro entry hmem
  rw [bne_iff_ne]
  rintro rfl
  exact h (List.mem_map_of_mem hmem)

/-- Filling a template keeps its runs and replaces its placeholders, in whichever order their values are
    listed. -/
theorem Factorisation.Factors.fill_eq (h : Separable keys) (hnodup : keys.Nodup) {template : Bytes}
    {f : Factorisation} (hf : f.Factors keys template) {values : List (Bytes × Bytes)}
    (hvalues : (values.map Prod.fst).Perm keys) :
    fill template values = f.filled (valueOf values) := by
  let pairs := values.mergeSort fun a b => Bytes.le a.1 b.1
  have hsorted : pairs.Perm values := List.mergeSort_perm _ _
  have hkeys : keys.Perm (pairs.map Prod.fst) := ((hsorted.map Prod.fst).trans hvalues).symm
  have hseparable := h.perm hkeys
  have hempty : pairs.lookup [] = none :=
    lookup_eq_none_of_notMem fun hmem => (hseparable [] hmem).1 rfl
  have hdistinct : (pairs.map Prod.fst).Nodup := hkeys.nodup_iff.1 hnodup
  calc fill template values
      = fillFrom [] pairs 0 f.text := by
        rw [hf.text_eq]
        change fillFrom ((pairs.lookup []).getD []) pairs 0 template = _
        rw [hempty, Option.getD_none]
    _ = f.filled (valueOf pairs) := fillFrom_text hseparable (hf.fits.perm hkeys)
    _ = f.filled (valueOf values) :=
        hf.fits.filled_congr fun k hk => valueOf_perm hsorted hdistinct (hkeys.mem_iff.1 hk)

/-! ## §6 The placeholders of pages -/

/-- The placeholders of the index page, or those of the page of an entity. -/
def Site.Placeholders (keys : List Bytes) : Prop :=
  (∃ t apiList readme, keys = (Site.indexValues t apiList readme).map Prod.fst) ∨
    ∃ t apiList linkPrefix e description,
      keys = (Site.pageValues t apiList linkPrefix e description).map Prod.fst

theorem Site.Placeholders.separable (h : Site.Placeholders keys) : Separable keys ∧ keys.Nodup := by
  rcases h with ⟨t, apiList, readme, rfl⟩ | ⟨t, apiList, linkPrefix, e, description, rfl⟩
  · simp only [Site.indexValues, List.map_cons, List.map_nil]
    exact ⟨by decide, by decide⟩
  · simp only [Site.pageValues, List.map_cons, List.map_nil]
    exact ⟨by decide, by decide⟩

/-- **Filling is one substitution.**  Every template is cut in exactly one way into literal runs without
    placeholders and the placeholders between them.  Whatever values the placeholders have, also such
    that hold placeholders, and in whichever order they are listed, filling keeps the runs and puts the
    value of each placeholder in its place.  Templates may be filled apart and put together afterwards
    when no placeholder straddles the boundary between them. -/
theorem fill_substitutes_placeholders (hkeys : Site.Placeholders keys) (template : Bytes) :
    ∃ f : Factorisation, f.Factors keys template ∧
      (∀ g : Factorisation, g.Factors keys template → g = f) ∧
      (∀ values : List (Bytes × Bytes), (values.map Prod.fst).Perm keys →
        fill template values = f.filled (valueOf values)) ∧
      ∀ (rest : Bytes) (values : List (Bytes × Bytes)), (values.map Prod.fst).Perm keys →
        ¬Straddles keys template rest →
          fill (template ++ rest) values = fill template values ++ fill rest values := by
  obtain ⟨hseparable, hnodup⟩ := hkeys.separable
  have hne : ∀ k ∈ keys, k ≠ [] := fun k hk => (hseparable k hk).1
  obtain ⟨f, hf⟩ := Factorisation.exists_factors hne template
  refine ⟨f, hf, fun g hg => hg.unique hseparable hf, fun values hvalues => ?_, ?_⟩
  · exact hf.fill_eq hseparable hnodup hvalues
  · intro rest values hvalues hstraddles
    obtain ⟨g, hg⟩ := Factorisation.exists_factors hne rest
    rw [(hf.append hg hstraddles).fill_eq hseparable hnodup hvalues, Factorisation.filled_append,
      hf.fill_eq hseparable hnodup hvalues, hg.fill_eq hseparable hnodup hvalues]

/-- A template full of brackets, with values that are placeholders and are listed out of order: each
    bracket more than a placeholder needs stays where it is, and no value is filled again. -/
theorem spare_brackets_kept :
    let keys := (Site.indexValues .empty [] []).map Prod.fst
    let template := bytes "[[[product]]]\x7b\x7b\x7b\x7breadme\x7d\x7d"
    let rest := bytes " [[title]]"
    let values := [(bytes "\x7b\x7breadme\x7d\x7d", bytes "\x7b\x7bapiList\x7d\x7d"), (bytes "[[type]]", []),
      (bytes "[[title]]", bytes "[[product]]"), (bytes "\x7b\x7bapiList\x7d\x7d", bytes "x"),
      (bytes "[[product]]", bytes "[[title]]")]
    let f := Factorisation.cut (bytes "[") (bytes "[[product]]")
      (.cut (bytes "]\x7b\x7b") (bytes "\x7b\x7breadme\x7d\x7d") (.run []))
    Site.Placeholders keys ∧ f.Factors keys template ∧ (values.map Prod.fst).Perm keys ∧
      ¬Straddles keys template rest ∧
      fill template values = bytes "[[[title]]]\x7b\x7b\x7b\x7bapiList\x7d\x7d" ∧
      fill (template ++ rest) values =
        bytes "[[[title]]]\x7b\x7b\x7b\x7bapiList\x7d\x7d" ++ fill rest values := by
  intro keys template rest values f
  have hkeys : Site.Placeholders keys := Or.inl ⟨_, _, _, rfl⟩
  have hf : f.Factors keys template := ⟨by decide, by decide⟩
  have hvalues : (values.map Prod.fst).Perm keys := by decide
  have hstraddles : ¬Straddles keys template rest := by
    -- the second text begins with a space, which no placeholder holds
    have hspace : ∀ k ∈ keys, byte ' ' ∉ k := by decide
    rintro ⟨u, v, -, hv, hkey, -, tail, hrest⟩
    obtain ⟨b, v, rfl⟩ := List.exists_cons_of_ne_nil hv
    obtain rfl : b = byte ' ' := (List.cons.inj hrest).1
    exact hspace _ hkey (by simp)
  obtain ⟨g, -, hunique, hfill, happend⟩ := fill_substitutes_placeholders hkeys template
  obtain rfl : f = g := hunique f hf
  have hfilled : f.filled (valueOf values) = bytes "[[[title]]]\x7b\x7b\x7b\x7bapiList\x7d\x7d" := by
    decide
  refine ⟨hkeys, hf, hvalues, hstraddles, (hfill values hvalues).trans hfilled, ?_⟩
  rw [happend rest values hvalues hstraddles, hfill values hvalues, hfilled]

end DocPages
