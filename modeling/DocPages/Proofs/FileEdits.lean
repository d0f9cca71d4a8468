import DocPages.Proofs.FilePlaces
import Mathlib.Data.List.DropRight

/-!
# Edits of a File System

Making directories and writing files change a file system place by place.  An edit of a place keeps
it, makes a directory where nothing was, or writes a file where no directory was; so edits never
remove anything, and one edit after another is an edit again.  Making a directory with those that lead
to it edits places on the way of its path only, and afterwards the path leads to a directory.

## Main results

- `FileSystem.Edits`: two file systems that differ by edits of some places
- `FileSystem.Edits.trans`, `FileSystem.Edits.keeps_directories`
- `FileSystem.makeDirectories_edits`, `FileSystem.stat_makeDirectories`
- `FileSystem.write_edits`
-/

namespace DocPages

namespace FileSystem

/-! ## §1 Putting something at a place -/

theorem lookup_filter_ne {x place : Place} (h : x ≠ place) (entries : List (Place × Node)) :
    (entries.filter fun e => e.1 != place).lookup x = entries.lookup x := by
  induction entries with
  | nil => rfl
  | cons e entries ih =>
    obtain ⟨p, node⟩ := e
    by_cases hp : p = place
    · have hx : (x == place) = false := by simpa using h
      simp [hp, List.lookup_cons, hx, ih]
    · simp [hp, List.lookup_cons, ih]

/-- What is put at a place is there afterwards, and all else is as it was. -/
theorem node?_put (fs : FileSystem) {place : Place} (hplace : place ≠ []) (node : Node) (x : Place) :
    (fs.put place node).node? x = if x = place then some node else fs.node? x := by
  by_cases hx : x = place
  · simp [node?, put, hx, hplace]
  · by_cases hnil : x = []
    · simp [node?, hnil, Ne.symm hplace]
    · have hbeq : (x == place) = false := by simpa using hx
      simp [node?, put, hx, hnil, List.lookup_cons, hbeq, lookup_filter_ne hx]

theorem ne_nil_of_node? (fs : FileSystem) {place : Place} (h : fs.node? place ≠ some .directory) :
    place ≠ [] := by
  rintro rfl
  exact h rfl

/-! ## §2 Edits -/

/-- What may happen to a place: `made` tells where directories may appear, and `filed` where files
    may be written and with which content. -/
inductive Edit (made : Place → Prop) (filed : Place → Bytes → Prop) (fs fs' : FileSystem)
    (x : Place) : Prop where
  | kept (h : fs'.node? x = fs.node? x)
  | made (hbefore : fs.node? x = none) (hafter : fs'.node? x = some .directory) (h : made x)
  | filed (content : Bytes) (hbefore : fs.node? x ≠ some .directory)
      (hafter : fs'.node? x = some (.file content)) (h : filed x content)

/-- Two file systems that differ by edits. -/
structure Edits (made : Place → Prop) (filed : Place → Bytes → Prop) (fs fs' : FileSystem) :
    Prop where
  workingDirectory : fs'.workingDirectory = fs.workingDirectory
  node : ∀ x, Edit made filed fs fs' x

namespace Edits

variable {made made' : Place → Prop} {filed filed' : Place → Bytes → Prop}
variable {fs fs' fs'' : FileSystem}

theorem refl (made : Place → Prop) (filed : Place → Bytes → Prop) (fs : FileSystem) :
    Edits made filed fs fs := ⟨rfl, fun _ => .kept rfl⟩

theorem keeps_directories (h : Edits made filed fs fs') (p : Place)
    (hp : fs.node? p = some .directory) : fs'.node? p = some .directory := by
  rcases h.node p with hkept | ⟨hnone, -, -⟩ | ⟨content, hbefore, -, -⟩
  · rw [hkept, hp]
  · rw [hp] at hnone
    cases hnone
  · exact absurd hp hbefore

/-- Where no file was written, there is a file after edits exactly when there was one. -/
theorem node?_file_iff (h : Edits made filed fs fs') {x : Place} (hfiled : ∀ c, ¬ filed x c)
    {content : Bytes} : fs'.node? x = some (.file content) ↔ fs.node? x = some (.file content) := by
  rcases h.node x with hkept | ⟨hbefore, hafter, -⟩ | ⟨c, -, -, hc⟩
  · rw [hkept]
  · simp [hbefore, hafter]
  · exact absurd hc (hfiled c)

theorem trans (h : Edits made filed fs fs') (h' : Edits made filed fs' fs'') :
    Edits made filed fs fs'' := by
  refine ⟨h'.workingDirectory.trans h.workingDirectory, fun x => ?_⟩
  rcases h'.node x with hkept | ⟨hbefore, hafter, hmade⟩ | ⟨content, hbefore, hafter, hfiled⟩
  · rcases h.node x with hkept' | ⟨hbefore', hafter', hmade'⟩ | ⟨content, hbefore', hafter', hfiled'⟩
    · exact .kept (hkept.trans hkept')
    · exact .made hbefore' (hkept.trans hafter') hmade'
    · exact .filed content hbefore' (hkept.trans hafter') hfiled'
  · -- only a place that was empty before both edits is empty before the second
    rcases h.node x with hkept' | ⟨-, hafter', -⟩ | ⟨content, -, hafter', -⟩
    · exact .made (hkept' ▸ hbefore) hafter hmade
    · rw [hbefore] at hafter'
      cases hafter'
    · rw [hbefore] at hafter'
      cases hafter'
  · -- a directory would have stayed one
    exact .filed content (fun hdir => hbefore (h.keeps_directories x hdir)) hafter hfiled

theorem mono (h : Edits made filed fs fs')
    (hmade : ∀ x, fs.node? x = none → made x → made' x)
    (hfiled : ∀ x content, filed x content → filed' x content) : Edits made' filed' fs fs' := by
  refine ⟨h.workingDirectory, fun x => ?_⟩
  rcases h.node x with hkept | ⟨hbefore, hafter, hx⟩ | ⟨content, hbefore, hafter, hx⟩
  · exact .kept hkept
  · exact .made hbefore hafter (hmade x hbefore hx)
  · exact .filed content hbefore hafter (hfiled x content hx)

theorem startOf_eq (h : Edits made filed fs fs') (path : Bytes) :
    fs'.startOf path = fs.startOf path := startOf_congr h.workingDirectory rfl

theorem placeOf_eq (h : Edits made filed fs fs') (path : Bytes) :
    fs'.placeOf path = fs.placeOf path := placeOf_congr h.workingDirectory path

theorem put_directory {place : Place} (hnone : fs.node? place = none) (hmade : made place) :
    Edits made filed fs (fs.put place .directory) := by
  have hplace : place ≠ [] := ne_nil_of_node? fs (by simp [hnone])
  refine ⟨rfl, fun x => ?_⟩
  by_cases hx : x = place
  · subst hx
    exact .made hnone (by simp [node?_put fs hplace]) hmade
  · exact .kept (by simp [node?_put fs hplace, hx])

theorem put_file {place : Place} {content : Bytes} (hdir : fs.node? place ≠ some .directory)
    (hfiled : filed place content) : Edits made filed fs (fs.put place (.file content)) := by
  have hplace : place ≠ [] := ne_nil_of_node? fs hdir
  refine ⟨rfl, fun x => ?_⟩
  by_cases hx : x = place
  · subst hx
    exact .filed content hdir (by simp [node?_put fs hplace]) hfiled
  · exact .kept (by simp [node?_put fs hplace, hx])

end Edits

/-! ## §3 Writing a file -/

theorem write_eq_ok {fs fs' : FileSystem} {path content : Bytes}
    (h : fs.write path content = .ok fs') :
    fs.locate path = .ok (fs.placeOf path) ∧ fs.node? (fs.placeOf path) ≠ some .directory ∧
      fs' = fs.put (fs.placeOf path) (.file content) := by
  unfold write at h
  cases hlocate : fs.locate path with
  | error fault => simp [hlocate] at h
  | ok place =>
    obtain rfl : place = fs.placeOf path := (locate_eq_ok_iff.1 hlocate).2.1
    simp only [hlocate] at h
    split at h
    · cases h
    · rename_i hnode
      exact ⟨rfl, fun hdir => hnode hdir, (Except.ok.inj h).symm⟩

theorem write_edits {fs fs' : FileSystem} {path content : Bytes}
    (h : fs.write path content = .ok fs') (made : Place → Prop) :
    Edits made (fun x c => x = fs.placeOf path ∧ c = content) fs fs' := by
  obtain ⟨-, hdir, rfl⟩ := write_eq_ok h
  exact Edits.put_file hdir ⟨rfl, rfl⟩

/-! ## §4 Making directories -/

/-- A place that a path enters by one of its proper names. -/
def OnWay (fs : FileSystem) (path : Bytes) (x : Place) : Prop :=
  ∃ pre n post, namesOf path = pre ++ n :: post ∧ n ≠ Path.here ∧ n ≠ Path.above ∧
    x = (fs.startOf path).along (pre ++ [n])

theorem makeDirectory_eq_ok {fs fs' : FileSystem} {path : Bytes}
    (h : fs.makeDirectory path = .ok fs') :
    Usable path ∧ ∃ pre n, namesOf path = pre ++ [n] ∧ n ≠ Path.here ∧ n ≠ Path.above ∧
      n.length ≤ nameLimit ∧ fs.Leads (fs.startOf path) pre ∧
      fs.node? (fs.placeOf path) = none ∧ fs' = fs.put (fs.placeOf path) .directory := by
  unfold makeDirectory at h
  simp only [List.contains_eq_mem, decide_eq_true_eq, List.isEmpty_iff] at h
  split at h
  · cases h
  rename_i hzero
  split at h
  · cases h
  rename_i hnil
  split at h
  · cases h
  rename_i hlong
  refine ⟨⟨hzero, hnil, Nat.not_lt.1 hlong⟩, ?_⟩
  split at h
  · cases h
  rename_i parent hwalk
  obtain ⟨hpass, rfl⟩ := walk_eq_ok_iff.1 hwalk
  -- the last name is looked up in the directory that the others lead to
  split at h
  · cases h
  · cases h
  · cases h
  rename_i n hparent hlast
  have hnames : namesOf path = (namesOf path).dropLast ++ [n] :=
    (List.dropLast_append_getLast? n hlast).symm
  split at h
  · cases h
  rename_i hdots
  rw [not_or] at hdots
  split at h
  · cases h
  rename_i hshort
  split at h
  · cases h
  rename_i hfree
  have hplace : fs.placeOf path = (fs.startOf path).along (namesOf path).dropLast ++ [n] := by
    rw [placeOf, hnames, Place.along_append, List.dropLast_concat]
    exact Place.enter_name _ hdots.1 hdots.2
  rw [← hplace] at h hfree
  exact ⟨_, n, hnames, hdots.1, hdots.2, Nat.not_lt.1 hshort, ⟨hpass, hparent⟩, by simpa using hfree,
    (Except.ok.inj h).symm⟩

theorem makeDirectory_edits {fs fs' : FileSystem} {path : Bytes}
    (h : fs.makeDirectory path = .ok fs') (filed : Place → Bytes → Prop) :
    Edits (fs.OnWay path) filed fs fs' := by
  obtain ⟨-, pre, n, hnames, hhere, habove, -, -, hfree, rfl⟩ := makeDirectory_eq_ok h
  exact Edits.put_directory hfree ⟨pre, n, [], hnames, hhere, habove, by rw [← hnames]; rfl⟩

theorem stat_makeDirectory {fs fs' : FileSystem} {path : Bytes}
    (h : fs.makeDirectory path = .ok fs') : fs'.stat path = .ok .directory := by
  have hedits := makeDirectory_edits h fun _ _ => False
  obtain ⟨husable, pre, n, hnames, hhere, habove, hshort, hpre, hfree, rfl⟩ := makeDirectory_eq_ok h
  refine stat_eq_directory_iff.2 ⟨husable, ?_⟩
  rw [hedits.startOf_eq, hnames, leads_concat]
  refine ⟨hpre.mono hedits.keeps_directories, hshort, ?_⟩
  have hplace : ((fs.startOf path).along pre).enter n = fs.placeOf path := by
    rw [placeOf, hnames, Place.along_append]
    rfl
  rw [hplace, node?_put fs (ne_nil_of_node? fs (by simp [hfree])), if_pos rfl]

/-- A path is the path to its parent, which ends in a slash unless it is empty, and one more name. -/
theorem parentPath_cases (path : Bytes) :
    parentPath path = [] ∨ ∃ y rest, parentPath path = y ++ [Path.separator] ∧
      path = y ++ Path.separator :: rest := by
  by_cases hne : parentPath path = []
  · exact Or.inl hne
  · right
    -- the second cut stops at a slash
    have hlast : (parentPath path).getLast hne = Path.separator := by
      have hstop := List.rdropWhile_last_not (· != Path.separator) _ hne
      rwa [bne_iff_ne, ne_eq, not_not] at hstop
    obtain ⟨rest, hrest⟩ : parentPath path <+: path :=
      (List.rdropWhile_prefix (· != Path.separator) _).trans
        (List.rdropWhile_prefix (· == Path.separator) _)
    have hparent : parentPath path = (parentPath path).dropLast ++ [Path.separator] := by
      rw [← hlast, List.dropLast_append_getLast]
    refine ⟨(parentPath path).dropLast, rest, hparent, ?_⟩
    calc path = parentPath path ++ rest := hrest.symm
      _ = (parentPath path).dropLast ++ [Path.separator] ++ rest := by rw [← hparent]
      _ = _ := by simp

theorem OnWay.of_parentPath {fs : FileSystem} {path : Bytes} {x : Place}
    (hne : parentPath path ≠ []) (h : fs.OnWay (parentPath path) x) : fs.OnWay path x := by
  rcases parentPath_cases path with hnil | ⟨y, rest, hparent, hpath⟩
  · exact absurd hnil hne
  · have habsolute : Path.isAbsolute (parentPath path) = Path.isAbsolute path := by
      rw [hparent, hpath]
      cases y <;> rfl
    have hnames : namesOf path = namesOf (parentPath path) ++ namesOf rest := by
      rw [hparent, hpath, namesOf_append_sep, namesOf_append_sep]
      simp [namesOf, Bytes.splitOn]
    obtain ⟨pre, n, post, hsplit, hhere, habove, rfl⟩ := h
    refine ⟨pre, n, post ++ namesOf rest, ?_, hhere, habove, ?_⟩
    · rw [hnames, hsplit, List.append_assoc, List.cons_append]
    · rw [startOf_congr rfl habsolute]

theorem makeDirectoriesWith_edits (filed : Place → Bytes → Prop) (fuel : Nat) (fs : FileSystem)
    (path : Bytes) : Edits (fs.OnWay path) filed fs (makeDirectoriesWith fuel fs path).1 := by
  induction fuel generalizing path with
  | zero => exact Edits.refl _ _ _
  | succ fuel ih =>
    -- the parents are on the way of the whole path
    have hparents : Edits (fs.OnWay path) filed fs
        (if (parentPath path).isEmpty then (fs, none)
          else makeDirectoriesWith fuel fs (parentPath path)).1 := by
      split
      · exact Edits.refl _ _ _
      · rename_i hne
        rw [List.isEmpty_iff] at hne
        exact (ih _).mono (fun x _ hx => hx.of_parentPath hne) fun _ _ hx => hx
    rw [makeDirectoriesWith]
    split
    · exact Edits.refl _ _ _
    · exact Edits.refl _ _ _
    · dsimp only
      split
      · rename_i hfailed
        rwa [hfailed] at hparents
      · rename_i fs' hmade
        rw [hmade] at hparents
        split
        · rename_i fs'' hlast
          refine hparents.trans ((makeDirectory_edits hlast filed).mono ?_ fun _ _ hx => hx)
          rintro x - ⟨pre, n, post, hsplit, hhere, habove, rfl⟩
          exact ⟨pre, n, post, hsplit, hhere, habove, by rw [hparents.startOf_eq]⟩
        · exact hparents

/-- Making directories changes places on the way only, where it makes directories. -/
theorem makeDirectories_edits (filed : Place → Bytes → Prop) (fs : FileSystem) (path : Bytes) :
    Edits (fs.OnWay path) filed fs (fs.makeDirectories path).1 :=
  makeDirectoriesWith_edits filed _ fs path

theorem stat_makeDirectoriesWith {fuel : Nat} {fs : FileSystem} {path : Bytes}
    (h : (makeDirectoriesWith fuel fs path).2 = none) :
    (makeDirectoriesWith fuel fs path).1.stat path = .ok .directory := by
  cases fuel with
  | zero => cases h
  | succ fuel =>
    rw [makeDirectoriesWith] at h ⊢
    split
    · assumption
    · simp_all
    · rename_i hfault
      simp only [hfault] at h
      dsimp only
      split
      · rename_i hfailed
        rw [hfailed] at h
        cases h
      · rename_i fs' hmade
        simp only [hmade] at h
        split
        · rename_i hlast
          exact stat_makeDirectory hlast
        · -- what was in the way is a directory, as for a path that ends in dots
          rename_i hlast
          simp only [hlast, ite_eq_left_iff, reduceCtorEq, imp_false, Bool.not_eq_true,
            Bool.not_eq_false] at h
          exact leadsToDirectory_iff.1 h

/-- If nothing went wrong, the path leads to a directory. -/
theorem stat_makeDirectories {fs : FileSystem} {path : Bytes}
    (h : (fs.makeDirectories path).2 = none) :
    (fs.makeDirectories path).1.stat path = .ok .directory := stat_makeDirectoriesWith h

end FileSystem

end DocPages
