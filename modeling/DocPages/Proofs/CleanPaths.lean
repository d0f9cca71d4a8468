import DocPages.Path
import DocPages.Proofs.ByteText
import Mathlib.Data.List.Infix

/-!
# Cleaned Paths

Cleaning follows the names of a path one by one and keeps the names that lead to its end.  What is
kept has one shape: steps up, which only a relative path has, and after them proper names.  From the
shape follow the laws that publishing needs: a cleaned path is clean, a path that does not climb
appends its names to those of the directory that it is followed from, and whether a path climbs can
be read off its cleaned text.

## Main results

- `Path.Tidy`, `Path.components_tidy`: the shape of cleaned names
- `Path.components_clean`, `Path.isAbsolute_clean`: cleaning again changes nothing
- `Path.components_join`: following a local path from a directory
- `Path.isLocal_eq_false_iff`: the paths that are not local, by their cleaned text
- `Path.components_directory`: the directory of a cleaned path
-/

namespace DocPages

namespace Path

/-! ## §1 Following names -/

/-- Follows names from a place, the names of which are listed innermost first. -/
def reduce (absolute : Bool) (place names : List Bytes) : List Bytes :=
  names.foldl (follow absolute) place

@[simp] theorem reduce_nil (absolute : Bool) (place : List Bytes) :
    reduce absolute place [] = place := rfl

@[simp] theorem reduce_cons (absolute : Bool) (place : List Bytes) (n : Bytes) (ns : List Bytes) :
    reduce absolute place (n :: ns) = reduce absolute (follow absolute place n) ns := rfl

theorem reduce_append (absolute : Bool) (place ns ns' : List Bytes) :
    reduce absolute place (ns ++ ns') = reduce absolute (reduce absolute place ns) ns' :=
  List.foldl_append

theorem components_eq (path : Bytes) :
    components path = (reduce (isAbsolute path) [] (Bytes.splitOn separator path)).reverse := rfl

/-- A name that leads somewhere below: not empty, and neither of the two names made of dots. -/
def IsName (n : Bytes) : Prop := n ≠ [] ∧ n ≠ here ∧ n ≠ above

theorem above_ne_nil : above ≠ [] := by decide

theorem above_ne_here : above ≠ here := by decide

theorem follow_of_idle {absolute : Bool} {place : List Bytes} {n : Bytes} (h : n = [] ∨ n = here) :
    follow absolute place n = place := if_pos h

theorem follow_of_isName {absolute : Bool} {place : List Bytes} {n : Bytes} (h : IsName n) :
    follow absolute place n = n :: place := by
  simp [follow, h.1, h.2.1, h.2.2]

theorem follow_above (absolute : Bool) (place : List Bytes) :
    follow absolute place above =
      match place with
      | [] => if absolute then [] else [above]
      | inner :: outer => if inner = above then above :: place else outer := by
  cases place <;> simp [follow, above_ne_nil, above_ne_here]

/-- One name does nothing, leads below, or leads up. -/
theorem idle_or_above_or_isName (n : Bytes) : (n = [] ∨ n = here) ∨ n = above ∨ IsName n := by
  unfold IsName
  tauto

/-- A step up that was not taken back stays. -/
theorem above_mem_reduce {absolute : Bool} {place : List Bytes} (h : above ∈ place)
    (ns : List Bytes) : above ∈ reduce absolute place ns := by
  induction ns generalizing place with
  | nil => exact h
  | cons n ns ih =>
    rw [reduce_cons]
    apply ih
    rcases idle_or_above_or_isName n with hn | rfl | hn
    · rwa [follow_of_idle hn]
    · rw [follow_above]
      cases place with
      | nil => simp at h
      | cons inner outer =>
        by_cases hinner : inner = above
        · simp [hinner]
        · simpa [hinner, Ne.symm hinner] using h
    · rw [follow_of_isName hn]
      exact List.mem_cons_of_mem _ h

/-- Names that never lead above their start can be followed from any place. -/
theorem reduce_append_place {place : List Bytes} {ns : List Bytes}
    (h : above ∉ reduce false place ns) (absolute : Bool) (base : List Bytes) :
    reduce absolute (place ++ base) ns = reduce false place ns ++ base := by
  induction ns generalizing place with
  | nil => rfl
  | cons n ns ih =>
    rw [reduce_cons] at h ⊢
    have hplace : above ∉ follow false place n := fun hmem => h (above_mem_reduce hmem ns)
    have hstep : follow absolute (place ++ base) n = follow false place n ++ base := by
      rcases idle_or_above_or_isName n with hn | rfl | hn
      · rw [follow_of_idle hn, follow_of_idle hn]
      · cases place with
        | nil =>
          -- from the start itself a step up would stay
          rw [follow_above] at hplace
          simp at hplace
        | cons inner outer =>
          have hinner : inner ≠ above := by
            rintro rfl
            rw [follow_above] at hplace
            simp at hplace
          simp [follow_above, hinner]
      · rw [follow_of_isName hn, follow_of_isName hn, List.cons_append]
    rw [hstep, ih h, reduce_cons]

/-! ## §2 The shape of cleaned names -/

/-- Names as cleaning leaves them, innermost first: proper names and then, in a relative path only,
    steps up. -/
structure Tidy (absolute : Bool) (place : List Bytes) : Prop where
  name : ∀ n ∈ place, n ≠ [] ∧ n ≠ here ∧ separator ∉ n
  climbs : ∃ ns k, place = ns ++ List.replicate k above ∧ above ∉ ns ∧ (absolute = true → k = 0)

theorem Tidy.nil (absolute : Bool) : Tidy absolute [] where
  name n hn := by simp at hn
  climbs := ⟨[], 0, rfl, by simp, fun _ => rfl⟩

theorem Tidy.follow {absolute : Bool} {place : List Bytes} (h : Tidy absolute place) {n : Bytes}
    (hn : separator ∉ n) : Tidy absolute (follow absolute place n) := by
  obtain ⟨ns, k, rfl, hns, hk⟩ := h.climbs
  rcases idle_or_above_or_isName n with hidle | rfl | hname
  · rwa [follow_of_idle hidle]
  · rw [follow_above]
    have habove : above ≠ [] ∧ above ≠ here ∧ separator ∉ above :=
      ⟨above_ne_nil, above_ne_here, hn⟩
    cases ns with
    | cons inner ns =>
      -- a proper name is taken back
      have hinner : inner ≠ above := fun h' => hns (by simp [h'])
      simp only [List.cons_append, hinner, if_false]
      refine ⟨fun m hm => h.name m (List.mem_cons_of_mem _ hm), ns, k, rfl, ?_, hk⟩
      exact fun hmem => hns (List.mem_cons_of_mem _ hmem)
    | nil =>
      cases k with
      | zero =>
        cases absolute with
        | true => exact Tidy.nil true
        | false =>
          refine ⟨fun m hm => ?_, [], 1, rfl, by simp, by simp⟩
          obtain rfl : m = above := by simpa using hm
          exact habove
      | succ k =>
        -- above a step up is another one
        have hmore : Tidy absolute (List.replicate (k + 2) above) := by
          refine ⟨fun m hm => ?_, [], k + 2, rfl, by simp, fun ha => absurd (hk ha) (by simp)⟩
          rw [List.eq_of_mem_replicate hm]
          exact habove
        simpa [List.replicate_succ] using hmore
  · rw [follow_of_isName hname]
    refine ⟨?_, n :: ns, k, rfl, ?_, hk⟩
    · exact List.forall_mem_cons.2 ⟨⟨hname.1, hname.2.1, hn⟩, h.name⟩
    · simpa using ⟨Ne.symm hname.2.2, hns⟩

theorem Tidy.reduce {absolute : Bool} {place : List Bytes} (h : Tidy absolute place)
    {ns : List Bytes} (hns : ∀ n ∈ ns, separator ∉ n) : Tidy absolute (reduce absolute place ns) := by
  induction ns generalizing place with
  | nil => exact h
  | cons n ns ih =>
    exact ih (h.follow (hns n List.mem_cons_self)) fun m hm => hns m (List.mem_cons_of_mem _ hm)

/-- The names of every cleaned path have this shape. -/
theorem components_tidy (path : Bytes) : Tidy (isAbsolute path) (components path).reverse := by
  rw [components_eq, List.reverse_reverse]
  exact (Tidy.nil _).reduce fun n hn => Bytes.notMem_of_mem_splitOn hn

theorem ne_nil_of_mem_components {path n : Bytes} (h : n ∈ components path) :
    n ≠ [] ∧ n ≠ here ∧ separator ∉ n :=
  (components_tidy path).name n (List.mem_reverse.2 h)

theorem reduce_replicate_above (k : Nat) :
    reduce false [] (List.replicate k above) = List.replicate k above := by
  induction k with
  | zero => rfl
  | succ k ih =>
    have hlast : List.replicate (k + 1) above = List.replicate k above ++ [above] :=
      List.replicate_succ'
    rw [hlast, reduce_append, ih, reduce_cons, reduce_nil, follow_above, ← hlast]
    cases k with
    | zero => rfl
    | succ k => simp [List.replicate_succ]

/-- Proper names are put on top one after the other, the outermost first. -/
theorem reduce_reverse_names {absolute : Bool} {ns : List Bytes} (h : ∀ n ∈ ns, IsName n)
    (base : List Bytes) : reduce absolute base ns.reverse = ns ++ base := by
  induction ns with
  | nil => rfl
  | cons n ns ih =>
    rw [List.reverse_cons, reduce_append, ih fun m hm => h m (List.mem_cons_of_mem _ hm),
      reduce_cons, reduce_nil, follow_of_isName (h n List.mem_cons_self), List.cons_append]

/-- Following tidy names from the start leads to themselves. -/
theorem Tidy.reduce_reverse {absolute : Bool} {place : List Bytes} (h : Tidy absolute place) :
    Path.reduce absolute [] place.reverse = place := by
  obtain ⟨ns, k, rfl, hns, hk⟩ := h.climbs
  have hclimb : Path.reduce absolute [] (List.replicate k above) = List.replicate k above := by
    cases absolute with
    | true => simp [hk rfl]
    | false => exact reduce_replicate_above k
  have hnames : ∀ n ∈ ns, IsName n := by
    intro n hn
    obtain ⟨hnil, hhere, -⟩ := h.name n (List.mem_append_left _ hn)
    exact ⟨hnil, hhere, fun h' => hns (h' ▸ hn)⟩
  -- outermost first the steps up come before the names, which are then put on top of them
  rw [List.reverse_append, List.reverse_replicate, reduce_append, hclimb,
    reduce_reverse_names hnames]

/-- A step up among the names of a relative path stands in front. -/
theorem head?_components_eq_above_iff {path : Bytes} :
    (components path).head? = some above ↔ above ∈ components path := by
  refine ⟨List.mem_of_mem_head?, fun hmem => ?_⟩
  obtain ⟨ns, k, hplace, hns, -⟩ := (components_tidy path).climbs
  have hcomponents : components path = List.replicate k above ++ ns.reverse := by
    rw [← List.reverse_reverse (components path), hplace, List.reverse_append,
      List.reverse_replicate]
  rw [hcomponents] at hmem ⊢
  cases k with
  | zero => exact absurd (by simpa using hmem) hns
  | succ k => simp [List.replicate_succ]

/-! ## §3 Cleaning again -/

theorem isAbsolute_append {x : Bytes} (hx : x ≠ []) (y : Bytes) :
    isAbsolute (x ++ y) = isAbsolute x := by
  obtain ⟨b, x, rfl⟩ := List.exists_cons_of_ne_nil hx
  rfl

section OfComponents

variable {absolute : Bool} {names : List Bytes}

theorem splitOn_join_of_tidy (h : Tidy absolute names.reverse) (hne : names ≠ []) :
    Bytes.splitOn separator (Bytes.join [separator] names) = names :=
  Bytes.splitOn_join hne fun n hn => (h.name n (List.mem_reverse.2 hn)).2.2

theorem isAbsolute_ofComponents (h : Tidy absolute names.reverse) :
    isAbsolute (ofComponents absolute names) = absolute := by
  cases absolute with
  | true => rfl
  | false =>
    cases names with
    | nil => decide
    | cons n ns =>
      obtain ⟨hnil, -, hsep⟩ := h.name n (by simp)
      have hjoin : ofComponents false (n :: ns) =
          n ++ ns.flatMap fun y => [separator] ++ y := Bytes.join_cons _ _ _
      rw [hjoin, isAbsolute_append hnil]
      obtain ⟨b, n, rfl⟩ := List.exists_cons_of_ne_nil hnil
      have hb : b ≠ separator := fun h' => hsep (by simp [h'])
      simp [isAbsolute, hb]

/-- The pieces of the text of tidy names: the names, after an empty piece if the path is absolute. -/
theorem splitOn_ofComponents (h : Tidy absolute names.reverse) (hne : names ≠ []) :
    Bytes.splitOn separator (ofComponents absolute names) =
      (if absolute then [[]] else []) ++ names := by
  have hnames := splitOn_join_of_tidy h hne
  cases absolute with
  | true =>
    -- before the slash of the root stands nothing, which is a piece as well
    have hroot : Bytes.splitOn separator (separator :: Bytes.join [separator] names) =
        [] :: Bytes.splitOn separator (Bytes.join [separator] names) := by simp [Bytes.splitOn]
    change Bytes.splitOn separator (separator :: Bytes.join [separator] names) = _
    rw [hroot, hnames]
    rfl
  | false =>
    have hrelative : ofComponents false names = Bytes.join [separator] names := by
      simp [ofComponents, hne]
    rw [hrelative, hnames]
    rfl

theorem components_ofComponents (h : Tidy absolute names.reverse) :
    components (ofComponents absolute names) = names := by
  rw [components_eq, isAbsolute_ofComponents h]
  by_cases hne : names = []
  · subst hne
    cases absolute <;> decide
  · rw [splitOn_ofComponents h hne]
    have hidle : reduce absolute [] ((if absolute then [[]] else []) ++ names) =
        reduce absolute [] names := by
      cases absolute with
      | true => exact congrArg (reduce true · names) (follow_of_idle (Or.inl rfl))
      | false => rfl
    have hreduce := h.reduce_reverse
    rw [List.reverse_reverse] at hreduce
    rw [hidle, hreduce, List.reverse_reverse]

end OfComponents

/-- Cleaning a path keeps the names that it leads along. -/
theorem components_clean (path : Bytes) : components (clean path) = components path :=
  components_ofComponents (components_tidy path)

theorem isAbsolute_clean (path : Bytes) : isAbsolute (clean path) = isAbsolute path :=
  isAbsolute_ofComponents (components_tidy path)

/-! ## §4 Local paths -/

theorem isLocal_iff {path : Bytes} :
    isLocal path = true ↔ path ≠ [] ∧ isAbsolute path = false ∧ above ∉ components path := by
  simp only [isLocal, Bool.and_eq_true, Bool.not_eq_true', bne_iff_ne, ne_eq,
    head?_components_eq_above_iff, List.isEmpty_eq_false_iff, and_assoc]

/-- A local path followed from a directory leads along the names of the directory and then along its
    own. -/
theorem components_join {dir path : Bytes} (h : isLocal path = true) :
    components (join dir path) = components dir ++ components path := by
  obtain ⟨hne, hrelative, hclimb⟩ := isLocal_iff.1 h
  by_cases hdir : dir = []
  · subst hdir
    have hjoin : join [] path = clean path := by simp [join, hne]
    rw [hjoin, components_clean]
    rfl
  · have hjoin : join dir path = clean (dir ++ separator :: path) := by simp [join, hdir]
    -- the names of the path are followed from the end of the directory, and stay below it
    rw [components_eq path, hrelative, List.mem_reverse] at hclimb
    have hbelow := reduce_append_place hclimb (isAbsolute dir)
      (reduce (isAbsolute dir) [] (Bytes.splitOn separator dir))
    rw [List.nil_append] at hbelow
    rw [hjoin, components_clean, components_eq, isAbsolute_append hdir, Bytes.splitOn_append_sep,
      reduce_append, hbelow, List.reverse_append, components_eq dir, components_eq path, hrelative]

theorem isAbsolute_join {dir path : Bytes} (h : isLocal path = true) :
    isAbsolute (join dir path) = isAbsolute dir := by
  obtain ⟨hne, hrelative, -⟩ := isLocal_iff.1 h
  by_cases hdir : dir = []
  · subst hdir
    have hjoin : join [] path = clean path := by simp [join, hne]
    rw [hjoin, isAbsolute_clean, hrelative]
    rfl
  · have hjoin : join dir path = clean (dir ++ separator :: path) := by simp [join, hdir]
    rw [hjoin, isAbsolute_clean, isAbsolute_append hdir]

/-- A relative path climbs exactly when its cleaned text is two dots, or begins with them and a
    slash. -/
theorem above_mem_components_iff {path : Bytes} (hrelative : isAbsolute path = false) :
    above ∈ components path ↔ clean path = above ∨ above ++ [separator] <+: clean path := by
  constructor
  · intro hmem
    rw [← head?_components_eq_above_iff] at hmem
    obtain ⟨rest, hrest⟩ : ∃ rest, components path = above :: rest := by
      cases hc : components path with
      | nil => simp [hc] at hmem
      | cons n rest =>
        rw [hc] at hmem
        exact ⟨rest, by rw [Option.some.inj hmem]⟩
    have hclean : clean path = Bytes.join [separator] (above :: rest) := by
      simp [clean, ofComponents, hrelative, hrest]
    -- the cleaned text begins with the two dots, which are all of it or stand before a slash
    rw [hclean]
    cases rest with
    | nil => exact Or.inl rfl
    | cons n more =>
      exact Or.inr ⟨Bytes.join [separator] (n :: more), by simp [Bytes.join]⟩
  · rintro (hclean | ⟨rest, hclean⟩)
    · -- cleaning again keeps the names, so they can be read off the cleaned text
      rw [← components_clean, hclean]
      decide
    · have hsplit : above ++ [separator] ++ rest = above ++ separator :: rest := by simp
      rw [← components_clean, ← hclean, hsplit, components_eq, isAbsolute_append above_ne_nil,
        Bytes.splitOn_append_sep, reduce_append, List.mem_reverse]
      exact above_mem_reduce (by decide) _

/-- The paths that are not local. -/
theorem isLocal_eq_false_iff {path : Bytes} :
    isLocal path = false ↔ path = [] ∨ isAbsolute path = true ∨ clean path = above ∨
      above ++ [separator] <+: clean path := by
  rw [← Bool.not_eq_true, isLocal_iff]
  cases habsolute : isAbsolute path with
  | true => simp
  | false =>
    rw [above_mem_components_iff habsolute]
    tauto

/-! ## §5 The directory of a path -/

theorem Tidy.tail {absolute : Bool} {n : Bytes} {place : List Bytes}
    (h : Tidy absolute (n :: place)) : Tidy absolute place := by
  refine ⟨fun m hm => h.name m (List.mem_cons_of_mem _ hm), ?_⟩
  obtain ⟨ns, k, hplace, hns, hk⟩ := h.climbs
  cases ns with
  | cons m ns =>
    obtain ⟨-, rfl⟩ := List.cons.inj hplace
    exact ⟨ns, k, rfl, fun hmem => hns (List.mem_cons_of_mem _ hmem), hk⟩
  | nil =>
    -- only steps up are left, of which one goes
    cases k with
    | zero => simp at hplace
    | succ k =>
      rw [List.nil_append, List.replicate_succ] at hplace
      obtain ⟨-, rfl⟩ := List.cons.inj hplace
      exact ⟨[], k, rfl, by simp, fun ha => absurd (hk ha) (by simp)⟩

theorem Tidy.dropLast {absolute : Bool} {names : List Bytes} (h : Tidy absolute names.reverse) :
    Tidy absolute names.dropLast.reverse := by
  rw [← List.tail_reverse]
  cases hnames : names.reverse with
  | nil => exact Tidy.nil absolute
  | cons n place =>
    rw [hnames] at h
    exact h.tail

/-- The directory of a cleaned path leads along all its names but the last. -/
theorem components_directory (path : Bytes) :
    components (directory (clean path)) = (components path).dropLast ∧
      isAbsolute (directory (clean path)) = isAbsolute path := by
  have htidy := components_tidy path
  have habsolute := isAbsolute_clean path
  unfold directory
  cases hcut : Bytes.cutLast? [separator] (clean path) with
  | none =>
    -- without a slash there is one name at most, and the directory is the start
    have hnone := Bytes.cutLast?_byte_eq_none_iff.1 hcut
    have hrelative : isAbsolute path = false := by
      cases h : isAbsolute path with
      | false => rfl
      | true => exact absurd (by simp [clean, ofComponents, h]) hnone
    refine ⟨?_, by rw [hrelative]; rfl⟩
    have hhere : components here = [] := by decide
    change components here = _
    rw [hhere]
    by_cases hne : components path = []
    · simp [hne]
    · have hsplit := splitOn_ofComponents htidy hne
      rw [show ofComponents (isAbsolute path) (components path) = clean path from rfl,
        Bytes.splitOn_of_notMem hnone, hrelative] at hsplit
      have hone : components path = [clean path] := by simpa using hsplit.symm
      rw [hone]
      rfl
  | some parts =>
    obtain ⟨before, last⟩ := parts
    obtain ⟨hclean, hlast⟩ := Bytes.cutLast?_byte_eq_some_iff.1 hcut
    have hbefore : isAbsolute (before ++ [separator]) = isAbsolute path := by
      rw [← habsolute, hclean]
      cases before <;> rfl
    have hsplit : Bytes.splitOn separator (clean path) =
        Bytes.splitOn separator before ++ [last] := by
      rw [hclean, Bytes.splitOn_append_sep, Bytes.splitOn_of_notMem hlast]
    have hnames : Bytes.splitOn separator before =
        (Bytes.splitOn separator (clean path)).dropLast := by
      rw [hsplit, List.dropLast_concat]
    refine ⟨?_, by rw [← hbefore]; exact isAbsolute_clean _⟩
    change components (clean (before ++ [separator])) = _
    -- the empty piece after the last slash leads nowhere
    have hidle : ∀ place, reduce (isAbsolute path) place (Bytes.splitOn separator []) = place :=
      fun place => @follow_of_idle (isAbsolute path) place [] (Or.inl rfl)
    rw [components_clean, components_eq, hbefore, Bytes.splitOn_append_sep, reduce_append, hidle,
      hnames]
    by_cases hne : components path = []
    · rw [hne]
      have hempty : clean path = ofComponents (isAbsolute path) [] := by rw [← hne]; rfl
      rw [hempty]
      cases isAbsolute path <;> decide
    · rw [show clean path = ofComponents (isAbsolute path) (components path) from rfl,
        splitOn_ofComponents htidy hne, List.dropLast_append_of_ne_nil hne, reduce_append]
      have hroot : reduce (isAbsolute path) [] (if isAbsolute path then [[]] else []) = [] := by
        cases isAbsolute path with
        | true => exact @follow_of_idle true [] [] (Or.inl rfl)
        | false => rfl
      have hreduce := htidy.dropLast.reduce_reverse
      rw [List.reverse_reverse] at hreduce
      rw [hroot, hreduce, List.reverse_reverse]

end Path

end DocPages
