import DocPages.Proofs.FileEdits
import Mathlib.Data.List.Nodup
import Mathlib.Data.List.Sort

/-!
# Well-Formed File Systems

A file system is stored as entries, and not every list of entries describes files and directories:
an entry may lie in no directory, or two entries may claim one place.  The operations never bring
such entries about.  In a file system without them, whatever is somewhere has a directory at each
place above it, and what a directory lists is determined by what is at the places in it.

## Main results

- `FileSystem.WellFormed`: every entry lies in a directory, and no place has two entries
- `FileSystem.WellFormed.above`: above whatever is there, there are directories
- `FileSystem.WellFormed.makeDirectories`, `FileSystem.WellFormed.write`: operations keep it
- `FileSystem.WellFormed.mem_names_iff`, `FileSystem.WellFormed.names_nodup`: what a directory lists
- `FileSystem.Same`: two file systems with the same at every place
-/

namespace DocPages

/-! ## §1 The order of names -/

namespace Bytes

theorem lt_iff {s t : Bytes} : lt s t = true ↔ s < t := by
  induction s generalizing t with
  | nil => cases t <;> simp [lt]
  | cons a s ih => cases t <;> simp [lt, List.cons_lt_cons_iff, ih]

theorem le_iff {s t : Bytes} : le s t = true ↔ s ≤ t := by
  rw [le, Bool.not_eq_true', ← Bool.not_eq_true, lt_iff]
  exact List.not_lt

theorem le_total (s t : Bytes) : (le s t || le t s) = true := by
  rw [Bool.or_eq_true, le_iff, le_iff]
  exact List.le_total s t

theorem le_trans {s t u : Bytes} (h : le s t = true) (h' : le t u = true) : le s u = true :=
  le_iff.2 (List.le_trans (le_iff.1 h) (le_iff.1 h'))

theorem le_antisymm {s t : Bytes} (h : le s t = true) (h' : le t s = true) : s = t :=
  List.le_antisymm (le_iff.1 h) (le_iff.1 h')

/-- Sorting by keys keeps the order of equal ones, and so it is sorting by insertion, which can be
    evaluated. -/
theorem mergeSort_key {α : Type} (l : List (Bytes × α)) :
    (l.mergeSort fun a b => le a.1 b.1) = l.insertionSort fun a b => le a.1 b.1 = true := by
  have htrans : ∀ a b c : Bytes × α, le a.1 b.1 = true → le b.1 c.1 = true → le a.1 c.1 = true :=
    fun _ _ _ => le_trans
  have htotal : ∀ a b : Bytes × α, (le a.1 b.1 || le b.1 a.1) = true := fun a b => le_total a.1 b.1
  induction l with
  | nil => simp
  | cons a l ih =>
    obtain ⟨smaller, rest, hsorted, hl, hsmaller⟩ := List.mergeSort_cons htrans htotal a l
    have hpairs := List.pairwise_mergeSort htrans htotal (a :: l)
    rw [hsorted] at hpairs
    rw [List.insertionSort_cons, ← ih, hl, hsorted]
    -- the new element goes behind those before it, and in front of the first one after it
    have hinsert : ∀ b ∈ smaller, le a.1 b.1 = false := by simpa using hsmaller
    clear hsorted hl hsmaller ih
    induction smaller with
    | nil =>
      cases rest with
      | nil => rfl
      | cons c rest =>
        have hfirst : le a.1 c.1 = true := by simp at hpairs; exact hpairs.1.1
        simp [hfirst]
    | cons b smaller ih =>
      have hb := hinsert b List.mem_cons_self
      have hrest := ih (List.Pairwise.of_cons hpairs) fun c hc => hinsert c (List.mem_cons_of_mem b hc)
      simp [hb, hrest]

end Bytes

namespace FileSystem

/-! ## §2 Entries that describe a tree of directories -/

/-- Every entry lies in a directory, and no place has two entries. -/
structure WellFormed (fs : FileSystem) : Prop where
  parent : ∀ e ∈ fs.entries, fs.node? e.1.dropLast = some .directory
  unique : (fs.entries.map Prod.fst).Nodup

instance (fs : FileSystem) : Decidable fs.WellFormed :=
  decidable_of_iff ((∀ e ∈ fs.entries, fs.node? e.1.dropLast = some .directory) ∧
      (fs.entries.map Prod.fst).Nodup)
    ⟨fun h => ⟨h.1, h.2⟩, fun h => ⟨h.parent, h.unique⟩⟩

theorem exists_entry_of_node? {fs : FileSystem} {place : Place} {node : Node} (hplace : place ≠ [])
    (h : fs.node? place = some node) : (place, node) ∈ fs.entries := by
  rw [node?, if_neg hplace] at h
  obtain ⟨before, after, hentries, -⟩ := List.lookup_eq_some_iff.1 h
  simp [hentries]

namespace WellFormed

variable {fs : FileSystem} {place x : Place} {node : Node}

/-- With one entry for each place, the entry is what is there. -/
theorem mem_entries_iff (hwf : fs.WellFormed) (hplace : place ≠ []) :
    (place, node) ∈ fs.entries ↔ fs.node? place = some node := by
  refine ⟨fun hmem => ?_, exists_entry_of_node? hplace⟩
  obtain ⟨before, after, hentries⟩ := List.append_of_mem hmem
  have hunique := hwf.unique
  rw [hentries, List.map_append, List.map_cons, List.nodup_middle, List.nodup_cons] at hunique
  rw [node?, if_neg hplace, List.lookup_eq_some_iff]
  refine ⟨before, after, hentries, fun e he => ?_⟩
  -- an entry for the same place before this one would be a second one
  rw [bne_iff_ne]
  intro heq
  exact hunique.1 (List.mem_append_left _ (List.mem_map.2 ⟨e, he, heq.symm⟩))

/-- Whatever is there lies in a directory. -/
theorem node?_dropLast (hwf : fs.WellFormed) (h : fs.node? place ≠ none) :
    fs.node? place.dropLast = some .directory := by
  by_cases hplace : place = []
  · rw [hplace]
    rfl
  · obtain ⟨node, hnode⟩ := Option.ne_none_iff_exists'.1 h
    exact hwf.parent _ (exists_entry_of_node? hplace hnode)

/-- Above whatever is there, there are directories. -/
theorem above (hwf : fs.WellFormed) (h : fs.node? place ≠ none) (hbegin : x <+: place)
    (hne : x ≠ place) : fs.node? x = some .directory := by
  induction place using List.reverseRecOn with
  | nil => exact absurd (List.prefix_nil.1 hbegin) hne
  | append_singleton place n ih =>
    have hparent := hwf.node?_dropLast h
    rw [List.dropLast_concat] at hparent
    rcases List.prefix_concat_iff.1 hbegin with heq | hup
    · exact absurd heq hne
    · by_cases hx : x = place
      · rwa [hx]
      · exact ih (by simp [hparent]) hup hx

/-- Putting something into a directory, where no directory is, keeps a file system well formed. -/
theorem put (hwf : fs.WellFormed) (hplace : place ≠ [])
    (hparent : fs.node? place.dropLast = some .directory)
    (hfree : fs.node? place ≠ some .directory) (node : Node) : (fs.put place node).WellFormed := by
  -- nothing lies in the place yet, so every directory that counts is still one
  have hkeep : ∀ x, fs.node? x = some .directory → (fs.put place node).node? x = some .directory := by
    intro x hx
    have hne : x ≠ place := by
      rintro rfl
      exact hfree hx
    rw [node?_put fs hplace, if_neg hne, hx]
  refine ⟨fun e he => hkeep _ ?_, ?_⟩
  · rcases List.mem_cons.1 he with rfl | hmem
    · exact hparent
    · exact hwf.parent e (List.mem_filter.1 hmem).1
  · have hsub : ((fs.entries.filter fun e => e.1 != place).map Prod.fst).Nodup :=
      hwf.unique.sublist (List.filter_sublist.map _)
    refine List.nodup_cons.2 ⟨fun hmem => ?_, hsub⟩
    obtain ⟨e, he, heq⟩ := List.mem_map.1 hmem
    simpa [heq] using (List.mem_filter.1 he).2

end WellFormed

/-! ## §3 Operations keep a file system well formed -/

theorem isAbsolute_parentPath {path : Bytes} (hne : parentPath path ≠ []) :
    Path.isAbsolute (parentPath path) = Path.isAbsolute path := by
  rcases parentPath_cases path with hnil | ⟨y, rest, hparent, hpath⟩
  · exact absurd hnil hne
  · rw [hparent, hpath]
    cases y <;> rfl

/-- What each single directory keeps, making a directory with its parents keeps.  The parents start
    where the path starts. -/
theorem makeDirectories_keeps {P : FileSystem → Prop} {path : Bytes}
    (hstep : ∀ fs fs' q, Path.isAbsolute q = Path.isAbsolute path → P fs →
      fs.makeDirectory q = .ok fs' → P fs')
    {fs : FileSystem} (h : P fs) : P (fs.makeDirectories path).1 := by
  suffices hall : ∀ fuel q, Path.isAbsolute q = Path.isAbsolute path →
      P (makeDirectoriesWith fuel fs q).1 from hall _ _ rfl
  intro fuel
  induction fuel with
  | zero =>
    intro q _
    exact h
  | succ fuel ih =>
    intro q hq
    have hparents : P (if (parentPath q).isEmpty then (fs, none)
        else makeDirectoriesWith fuel fs (parentPath q)).1 := by
      split
      · exact h
      · rename_i hne
        rw [List.isEmpty_iff] at hne
        exact ih _ ((isAbsolute_parentPath hne).trans hq)
    rw [makeDirectoriesWith]
    split
    · exact h
    · exact h
    · dsimp only
      split
      · rename_i hfailed
        rwa [hfailed] at hparents
      · rename_i fs' hmade
        rw [hmade] at hparents
        split
        · rename_i fs'' hlast
          exact hstep fs' fs'' q hq hparents hlast
        · exact hparents

theorem namesOf_eq_nil {path : Bytes} (h : namesOf path = []) :
    path = [] ∨ Path.isAbsolute path = true := by
  cases path with
  | nil => exact Or.inl rfl
  | cons b s =>
    right
    by_cases hb : b = Path.separator
    · simp [Path.isAbsolute, hb]
    · -- otherwise the path begins with a name
      obtain ⟨piece, more, -, hpieces⟩ := Bytes.splitOn_cons_of_ne hb s
      simp [namesOf, hpieces] at h

namespace WellFormed

variable {fs fs' : FileSystem} {path : Bytes}

theorem makeDirectory (hwf : fs.WellFormed) (h : fs.makeDirectory path = .ok fs') :
    fs'.WellFormed := by
  obtain ⟨-, pre, n, hnames, hhere, habove, -, hpre, hfree, rfl⟩ := makeDirectory_eq_ok h
  have hplace : fs.placeOf path = (fs.startOf path).along pre ++ [n] := by
    rw [placeOf, hnames, Place.along_append]
    exact Place.enter_name _ hhere habove
  apply hwf.put
  · simp [hplace]
  · rw [hplace, List.dropLast_concat]
    exact hpre.2
  · simp [hfree]

theorem makeDirectories (hwf : fs.WellFormed) (path : Bytes) : (fs.makeDirectories path).1.WellFormed :=
  makeDirectories_keeps (fun _ _ _ _ => WellFormed.makeDirectory) hwf

/-- A name found in a directory leads to a directory or to a place directly in that one. -/
theorem enter_eq (hwf : fs.WellFormed) {place : Place} (hplace : fs.node? place = some .directory)
    {n : Bytes} (h : fs.node? (place.enter n) ≠ some .directory) : place.enter n = place ++ [n] := by
  by_cases hhere : n = Path.here
  · rw [hhere, Place.enter_here] at h
    exact absurd hplace h
  by_cases habove : n = Path.above
  · rw [habove, Place.enter_above] at h
    exact absurd (hwf.node?_dropLast (by simp [hplace])) h
  · exact Place.enter_name place hhere habove

theorem write (hwf : fs.WellFormed) {content : Bytes} (h : fs.write path content = .ok fs') :
    fs'.WellFormed := by
  obtain ⟨hlocate, hdir, rfl⟩ := write_eq_ok h
  obtain ⟨husable, -, hpass⟩ := locate_eq_ok_iff.1 hlocate
  have hnames := (passable_append.1 hpass).1
  rcases List.eq_nil_or_concat (namesOf path) with hnil | ⟨pre, n, hsplit⟩
  · -- a path without names is the root
    have habsolute := (namesOf_eq_nil hnil).resolve_left husable.ne_nil
    have hroot : fs.placeOf path = [] := by
      rw [placeOf, hnil, startOf_of_isAbsolute fs habsolute]
      rfl
    rw [hroot] at hdir
    exact absurd rfl hdir
  · rw [List.concat_eq_append] at hsplit
    rw [hsplit, passable_append] at hnames
    have hend : fs.placeOf path = ((fs.startOf path).along pre).enter n := by
      rw [placeOf, hsplit, Place.along_append]
      rfl
    have hparent := hnames.2.1
    have hlast := hwf.enter_eq hparent (hend ▸ hdir)
    rw [hend, hlast] at hdir ⊢
    exact hwf.put (by simp) (by rwa [List.dropLast_concat]) hdir _

end WellFormed

/-! ## §4 What a directory lists -/

theorem nameIn?_eq_some_iff {directory place : Place} {name : Bytes} :
    nameIn? directory place = some name ↔ place = directory ++ [name] := by
  unfold nameIn?
  constructor
  · intro h
    split at h
    · rename_i hbegin hrest
      obtain ⟨rest, rfl⟩ := List.isPrefixOf_iff_prefix.1 hbegin
      rw [List.drop_left] at hrest
      rw [hrest, Option.some.inj h]
    · cases h
  · rintro rfl
    have hbegin : directory.isPrefixOf (directory ++ [name]) = true :=
      List.isPrefixOf_iff_prefix.2 (List.prefix_append _ _)
    rw [hbegin, List.drop_left]

theorem names_eq_ok_iff {fs : FileSystem} {path : Bytes} {found : List (Bytes × Node)} :
    fs.names path = .ok found ↔
      fs.locate path = .ok (fs.placeOf path) ∧ fs.node? (fs.placeOf path) = some .directory ∧
        found = (fs.entries.filterMap fun e =>
          (nameIn? (fs.placeOf path) e.1).map fun name => (name, e.2)).mergeSort
            fun a b => Bytes.le a.1 b.1 := by
  unfold names
  cases hlocate : fs.locate path with
  | error fault => simp
  | ok place =>
    obtain rfl : place = fs.placeOf path := (locate_eq_ok_iff.1 hlocate).2.1
    cases hnode : fs.node? (fs.placeOf path) with
    | none => simp [hnode]
    | some node =>
      cases node with
      | file content => simp [hnode]
      | directory => simp [hnode, eq_comm]

section Listing

variable {fs : FileSystem} {path : Bytes} {found : List (Bytes × Node)}

theorem WellFormed.mem_names_iff (hwf : fs.WellFormed) (h : fs.names path = .ok found) {name : Bytes}
    {node : Node} : (name, node) ∈ found ↔ fs.node? (fs.placeOf path ++ [name]) = some node := by
  obtain ⟨-, -, rfl⟩ := names_eq_ok_iff.1 h
  have hentry : (fs.placeOf path ++ [name], node) ∈ fs.entries ↔ _ :=
    hwf.mem_entries_iff (by simp)
  rw [List.mem_mergeSort, List.mem_filterMap, ← hentry]
  constructor
  · rintro ⟨e, he, hname⟩
    obtain ⟨n, hn, heq⟩ := Option.map_eq_some_iff.1 hname
    obtain ⟨rfl, rfl⟩ := Prod.mk.inj heq
    rwa [← nameIn?_eq_some_iff.1 hn]
  · intro he
    exact ⟨_, he, by rw [nameIn?_eq_some_iff.2 rfl]; rfl⟩

theorem WellFormed.names_nodup (hwf : fs.WellFormed) (h : fs.names path = .ok found) :
    (found.map Prod.fst).Nodup := by
  obtain ⟨-, -, rfl⟩ := names_eq_ok_iff.1 h
  refine ((List.mergeSort_perm _ _).map Prod.fst).nodup_iff.2 ?_
  have hnames : (fs.entries.filterMap fun e =>
      (nameIn? (fs.placeOf path) e.1).map fun name => (name, e.2)).map Prod.fst =
        (fs.entries.map Prod.fst).filterMap (nameIn? (fs.placeOf path)) := by
    rw [List.map_filterMap, List.filterMap_map]
    congr 1
    funext e
    simp [Function.comp_def]
  rw [hnames]
  refine List.Nodup.filterMap (fun x y name hx hy => ?_) hwf.unique
  -- the name in a directory tells the place
  exact (nameIn?_eq_some_iff.1 hx).trans (nameIn?_eq_some_iff.1 hy).symm

theorem names_sorted (h : fs.names path = .ok found) :
    (found.map Prod.fst).Pairwise fun a b => Bytes.le a b = true := by
  obtain ⟨-, -, rfl⟩ := names_eq_ok_iff.1 h
  rw [List.pairwise_map]
  apply List.pairwise_mergeSort
  · intro a b c
    exact Bytes.le_trans
  · intro a b
    exact Bytes.le_total a.1 b.1

end Listing

/-! ## §5 The same files -/

/-- Two file systems with the same at every place. -/
structure Same (fs fs' : FileSystem) : Prop where
  workingDirectory : fs'.workingDirectory = fs.workingDirectory
  node : ∀ place, fs'.node? place = fs.node? place

end FileSystem

end DocPages
