import DocPages.FileSystem
import DocPages.Proofs.CleanPaths

/-!
# The Places of Paths

A path can be followed in two ways: by its text, which cleaning does, and through the directories of a
file system.  Both lead to the same place, since there are no links.  A path can be followed through a
file system when there is a directory at each place on the way, and then there is a directory at each
place on the way of the cleaned path as well.

## Main results

- `Place.along`, `FileSystem.placeOf`: the place that a path leads to
- `FileSystem.stat_eq_directory_iff`: when a path leads to a directory
- `FileSystem.placeOf_eq_components`, `FileSystem.Leads.components`: following the cleaned names
- `Place.prefix_along_or_left`: what a path has entered is above its end unless the path left it again
-/

namespace DocPages

/-! ## §1 Entering names -/

/-- The place that one name leads to. -/
def Place.enter (place : Place) (name : Bytes) : Place :=
  if name = Path.here then place
  else if name = Path.above then place.dropLast
  else place ++ [name]

/-- The place that names lead to, one after the other. -/
def Place.along (place : Place) (names : List Bytes) : Place := names.foldl Place.enter place

namespace Place

@[simp] theorem enter_here (place : Place) : enter place Path.here = place := if_pos rfl

@[simp] theorem enter_above (place : Place) : enter place Path.above = place.dropLast := by
  simp [enter, Path.above_ne_here]

theorem enter_name (place : Place) {n : Bytes} (hhere : n ≠ Path.here) (habove : n ≠ Path.above) :
    enter place n = place ++ [n] := by
  simp [enter, hhere, habove]

@[simp] theorem along_nil (place : Place) : along place [] = place := rfl

@[simp] theorem along_cons (place : Place) (n : Bytes) (ns : List Bytes) :
    along place (n :: ns) = along (enter place n) ns := rfl

theorem along_append (place : Place) (ns ns' : List Bytes) :
    along place (ns ++ ns') = along (along place ns) ns' := List.foldl_append

theorem along_names (place : Place) {ns : List Bytes}
    (h : ∀ n ∈ ns, n ≠ Path.here ∧ n ≠ Path.above) : along place ns = place ++ ns := by
  induction ns generalizing place with
  | nil => simp
  | cons n ns ih =>
    obtain ⟨hn, hns⟩ := List.forall_mem_cons.1 h
    rw [along_cons, enter_name place hn.1 hn.2, ih _ hns, List.append_assoc, List.singleton_append]

/-- A place on the way is above the end, unless the path goes up from that very place. -/
theorem prefix_along_or_left {x place : Place} (h : x <+: place) (ns : List Bytes) :
    x <+: along place ns ∨ ∃ pre post, ns = pre ++ Path.above :: post ∧ along place pre = x := by
  induction ns generalizing place with
  | nil => exact Or.inl h
  | cons n ns ih =>
    by_cases hleft : n = Path.above ∧ place = x
    · obtain ⟨rfl, rfl⟩ := hleft
      exact Or.inr ⟨[], ns, rfl, rfl⟩
    · have henter : x <+: enter place n := by
        unfold enter
        split
        · exact h
        split
        · -- the place is properly below `x`, so one step up does not leave `x`
          rename_i hn
          obtain ⟨more, rfl⟩ := h
          have hmore : more ≠ [] := fun hnil => hleft ⟨hn, by simp [hnil]⟩
          rw [List.dropLast_append_of_ne_nil hmore]
          exact List.prefix_append _ _
        · exact h.trans (List.prefix_append _ _)
      rcases ih henter with hend | ⟨pre, post, rfl, hpre⟩
      · exact Or.inl hend
      · exact Or.inr ⟨n :: pre, post, rfl, hpre⟩

end Place

/-! ## §2 Following names through directories -/

namespace FileSystem

/-- Names that can be followed from a place: each of them is looked up in a directory. -/
def Passable (fs : FileSystem) : Place → List Bytes → Prop
  | _, [] => True
  | place, n :: ns =>
    fs.node? place = some .directory ∧ n.length ≤ nameLimit ∧ fs.Passable (place.enter n) ns

/-- Names that can be followed from a place to a directory. -/
def Leads (fs : FileSystem) (place : Place) (names : List Bytes) : Prop :=
  fs.Passable place names ∧ fs.node? (place.along names) = some .directory

section Passable

variable {fs fs' : FileSystem} {place : Place} {n : Bytes} {ns ns' : List Bytes}

theorem passable_append :
    fs.Passable place (ns ++ ns') ↔ fs.Passable place ns ∧ fs.Passable (place.along ns) ns' := by
  induction ns generalizing place with
  | nil => simp [Passable]
  | cons n ns ih => simp [Passable, ih, and_assoc]

theorem Passable.mono (h : fs.Passable place ns)
    (hkeep : ∀ p, fs.node? p = some .directory → fs'.node? p = some .directory) :
    fs'.Passable place ns := by
  induction ns generalizing place with
  | nil => trivial
  | cons n ns ih => exact ⟨hkeep _ h.1, h.2.1, ih h.2.2⟩

theorem Leads.mono (h : fs.Leads place ns)
    (hkeep : ∀ p, fs.node? p = some .directory → fs'.node? p = some .directory) :
    fs'.Leads place ns :=
  ⟨h.1.mono hkeep, hkeep _ h.2⟩

theorem leads_append :
    fs.Leads place (ns ++ ns') ↔ fs.Leads place ns ∧ fs.Leads (place.along ns) ns' := by
  unfold Leads
  rw [passable_append, Place.along_append]
  constructor
  · rintro ⟨⟨hns, hns'⟩, hend⟩
    refine ⟨⟨hns, ?_⟩, hns', hend⟩
    -- the place in between is the end, or the next name is looked up in it
    cases ns' with
    | nil => exact hend
    | cons n ns' => exact hns'.1
  · rintro ⟨⟨hns, -⟩, hns', hend⟩
    exact ⟨⟨hns, hns'⟩, hend⟩

theorem leads_concat :
    fs.Leads place (ns ++ [n]) ↔
      fs.Leads place ns ∧ n.length ≤ nameLimit ∧
        fs.node? ((place.along ns).enter n) = some .directory := by
  rw [leads_append]
  refine and_congr_right fun h => ?_
  simp [Leads, Passable, h.2]

theorem leads_cons :
    fs.Leads place (n :: ns) ↔
      fs.node? place = some .directory ∧ n.length ≤ nameLimit ∧ fs.Leads (place.enter n) ns := by
  simp [Leads, Passable, and_assoc]

/-- Each place on the way to a directory is one. -/
theorem Leads.of_prefix (h : fs.Leads place ns') (hpre : ns <+: ns') : fs.Leads place ns := by
  obtain ⟨more, rfl⟩ := hpre
  exact (leads_append.1 h).1

theorem walk_cons (hplace : fs.node? place = some .directory) :
    fs.walk place (n :: ns) =
      if nameLimit < n.length then .error .nameTooLong else fs.walk (place.enter n) ns := by
  have hhere : ¬ nameLimit < Path.here.length := by decide
  have habove : ¬ nameLimit < Path.above.length := by decide
  rw [walk, hplace]
  by_cases hn : n = Path.here
  · simp [hn, hhere]
  · by_cases hn' : n = Path.above
    · simp [hn', habove, Path.above_ne_here]
    · simp [hn, hn', Place.enter]

theorem walk_eq_ok_iff {p : Place} :
    fs.walk place ns = .ok p ↔ fs.Passable place ns ∧ p = place.along ns := by
  induction ns generalizing place with
  | nil => simp [walk, Passable, eq_comm]
  | cons n ns ih =>
    by_cases hplace : fs.node? place = some .directory
    · rw [walk_cons hplace]
      by_cases hlong : nameLimit < n.length
      · simp [hlong, Passable, Nat.not_le.2 hlong]
      · simp [hlong, ih, Passable, hplace, Nat.not_lt.1 hlong]
    · rw [walk]
      cases hnode : fs.node? place with
      | none => simp [Passable, hnode]
      | some node =>
        cases node with
        | file content => simp [Passable, hnode]
        | directory => exact absurd hnode hplace

end Passable

/-! ## §3 The names of a path -/

theorem namesOf_append_sep (x y : Bytes) :
    namesOf (x ++ Path.separator :: y) = namesOf x ++ namesOf y := by
  simp [namesOf, Bytes.splitOn_append_sep]

theorem ne_nil_of_mem_namesOf {path n : Bytes} (h : n ∈ namesOf path) : n ≠ [] := by
  simpa using (List.mem_filter.1 h).2

theorem reduce_namesOf (absolute : Bool) (place : List Bytes) (path : Bytes) :
    Path.reduce absolute place (Bytes.splitOn Path.separator path) =
      Path.reduce absolute place (namesOf path) := by
  unfold namesOf
  generalize Bytes.splitOn Path.separator path = ns
  induction ns generalizing place with
  | nil => rfl
  | cons n ns ih =>
    cases n with
    | nil => exact (ih _).trans (by rw [Path.follow_of_idle (Or.inl rfl)]; rfl)
    | cons b n => exact ih _

/-- The names of a cleaned path are the ones that cleaning keeps; if it keeps none, the path may be a
    single dot. -/
theorem namesOf_clean (path : Bytes) :
    namesOf (Path.clean path) = Path.components path ∨
      Path.components path = [] ∧ namesOf (Path.clean path) = [Path.here] := by
  have hclean : Path.clean path =
      Path.ofComponents (Path.isAbsolute path) (Path.components path) := rfl
  by_cases hne : Path.components path = []
  · rw [hclean, hne]
    cases Path.isAbsolute path with
    | true => exact Or.inl (by decide)
    | false => exact Or.inr ⟨rfl, by decide⟩
  · have hkeep : (Path.components path).filter (fun n => !n.isEmpty) = Path.components path :=
      List.filter_eq_self.2 fun n hn => by
        simpa using (Path.ne_nil_of_mem_components hn).1
    refine Or.inl ?_
    rw [hclean, namesOf, Path.splitOn_ofComponents (Path.components_tidy path) hne,
      List.filter_append, hkeep]
    cases Path.isAbsolute path <;> rfl

/-- The place that a path leads to when nothing is in the way. -/
def placeOf (fs : FileSystem) (path : Bytes) : Place := (fs.startOf path).along (namesOf path)

theorem startOf_congr {fs fs' : FileSystem} {path path' : Bytes}
    (hfs : fs'.workingDirectory = fs.workingDirectory)
    (habsolute : Path.isAbsolute path' = Path.isAbsolute path) :
    fs'.startOf path' = fs.startOf path := by
  simp [startOf, hfs, habsolute]

theorem placeOf_congr {fs fs' : FileSystem} (hfs : fs'.workingDirectory = fs.workingDirectory)
    (path : Bytes) : fs'.placeOf path = fs.placeOf path := by
  rw [placeOf, startOf_congr hfs rfl, placeOf]

theorem startOf_of_isAbsolute (fs : FileSystem) {path : Bytes} (h : Path.isAbsolute path = true) :
    fs.startOf path = [] := if_pos h

/-! ## §4 Cleaning keeps the place -/

section Clean

variable {absolute : Bool} {start : Place} {place : List Bytes} {n : Bytes} {ns : List Bytes}

theorem here_notMem_follow (h : Path.here ∉ place) : Path.here ∉ Path.follow absolute place n := by
  rcases Path.idle_or_above_or_isName n with hn | rfl | hn
  · rwa [Path.follow_of_idle hn]
  · rw [Path.follow_above]
    cases place with
    | nil => cases absolute <;> simp [Ne.symm Path.above_ne_here]
    | cons inner outer =>
      have houter : Path.here ∉ outer := fun hmem => h (List.mem_cons_of_mem _ hmem)
      by_cases hinner : inner = Path.above
      · simp [hinner, Ne.symm Path.above_ne_here, houter]
      · simpa [hinner] using houter
  · rw [Path.follow_of_isName hn]
    simpa using ⟨Ne.symm hn.2.1, h⟩

/-- Following a name by the text leads where entering it leads. -/
theorem along_follow (hstart : absolute = true → start = []) (hplace : Path.here ∉ place)
    (hn : n ≠ []) :
    start.along (Path.follow absolute place n).reverse = (start.along place.reverse).enter n := by
  rcases Path.idle_or_above_or_isName n with (rfl | rfl) | rfl | hname
  · exact absurd rfl hn
  · rw [Path.follow_of_idle (Or.inr rfl), Place.enter_here]
  · rw [Path.follow_above, Place.enter_above]
    cases place with
    | nil =>
      cases absolute with
      | true => simp [hstart rfl]
      | false => simp
    | cons inner outer =>
      by_cases hinner : inner = Path.above
      · simp [hinner, Place.along_append]
      · -- the step up takes the last name back, from the text and from the place
        have hhere : inner ≠ Path.here := fun h => hplace (by simp [h])
        simp [hinner, Place.along_append, Place.enter_name _ hhere hinner]
  · rw [Path.follow_of_isName hname, List.reverse_cons, Place.along_append]
    rfl

theorem along_reduce (hstart : absolute = true → start = []) (hplace : Path.here ∉ place)
    (hns : ∀ n ∈ ns, n ≠ []) :
    start.along (Path.reduce absolute place ns).reverse = (start.along place.reverse).along ns := by
  induction ns generalizing place with
  | nil => rfl
  | cons n ns ih =>
    obtain ⟨hn, hns⟩ := List.forall_mem_cons.1 hns
    rw [Path.reduce_cons, ih (here_notMem_follow hplace) hns, along_follow hstart hplace hn]
    rfl

/-- A directory found by following a name is found by following the cleaned names. -/
theorem Leads.follow {fs : FileSystem} (h : fs.Leads start place.reverse)
    (hstart : absolute = true → start = []) (hplace : Path.here ∉ place) (hn : n ≠ [])
    (hlong : n.length ≤ nameLimit)
    (hnode : fs.node? ((start.along place.reverse).enter n) = some .directory) :
    fs.Leads start (Path.follow absolute place n).reverse := by
  have hpush : fs.Leads start (n :: place).reverse := by
    rw [List.reverse_cons]
    exact leads_concat.2 ⟨h, hlong, hnode⟩
  rcases Path.idle_or_above_or_isName n with hidle | rfl | hname
  · rwa [Path.follow_of_idle hidle]
  · rw [Path.follow_above]
    cases place with
    | nil =>
      cases absolute with
      | true => exact h
      | false => exact hpush
    | cons inner outer =>
      by_cases hinner : inner = Path.above
      · simpa [hinner] using hpush
      · -- going back leads to a place that was passed before
        simp only [hinner, if_false]
        rw [List.reverse_cons] at h
        exact (leads_append.1 h).1
  · rwa [Path.follow_of_isName hname]

theorem Leads.reduce {fs : FileSystem} (h : fs.Leads start place.reverse)
    (hns : fs.Leads (start.along place.reverse) ns) (hstart : absolute = true → start = [])
    (hplace : Path.here ∉ place) (hne : ∀ n ∈ ns, n ≠ []) :
    fs.Leads start (Path.reduce absolute place ns).reverse := by
  induction ns generalizing place with
  | nil => exact h
  | cons n ns ih =>
    obtain ⟨hn, hne⟩ := List.forall_mem_cons.1 hne
    obtain ⟨-, hlong, hns⟩ := leads_cons.1 hns
    have hnode : fs.node? ((start.along place.reverse).enter n) = some .directory := by
      cases ns with
      | nil => exact hns.2
      | cons m ns => exact hns.1.1
    refine ih (h.follow hstart hplace hn hlong hnode) ?_ (here_notMem_follow hplace) hne
    rwa [along_follow hstart hplace hn]

end Clean

/-- A path leads where its cleaned names lead. -/
theorem placeOf_eq_components (fs : FileSystem) (path : Bytes) :
    fs.placeOf path = (fs.startOf path).along (Path.components path) := by
  rw [Path.components_eq, reduce_namesOf,
    along_reduce (fs.startOf_of_isAbsolute) (by simp) fun n hn => ne_nil_of_mem_namesOf hn]
  rfl

/-- If a path leads to a directory, so do its cleaned names, and everything on their way is one. -/
theorem Leads.components {fs : FileSystem} {path : Bytes}
    (h : fs.Leads (fs.startOf path) (namesOf path)) :
    fs.Leads (fs.startOf path) (Path.components path) := by
  rw [Path.components_eq, reduce_namesOf]
  refine Leads.reduce ⟨trivial, ?_⟩ h fs.startOf_of_isAbsolute (by simp)
    fun n hn => ne_nil_of_mem_namesOf hn
  have hempty : fs.Leads (fs.startOf path) [] := h.of_prefix List.nil_prefix
  exact hempty.2

/-! ## §5 What a path leads to -/

/-- A path that the system takes at all. -/
structure Usable (path : Bytes) : Prop where
  noZero : 0 ∉ path
  ne_nil : path ≠ []
  short : path.length ≤ pathLimit

theorem locate_eq_ok_iff {fs : FileSystem} {path : Bytes} {p : Place} :
    fs.locate path = .ok p ↔ Usable path ∧ p = fs.placeOf path ∧
      fs.Passable (fs.startOf path)
        (namesOf path ++ if path.getLast? = some Path.separator then [Path.here] else []) := by
  -- the dot that stands for a final slash leads nowhere else
  have hplace : (fs.startOf path).along
      (namesOf path ++ if path.getLast? = some Path.separator then [Path.here] else []) =
        fs.placeOf path := by
    rw [Place.along_append]
    split <;> simp [placeOf]
  unfold locate
  by_cases hzero : 0 ∈ path
  · simpa [hzero] using fun h : Usable path => absurd hzero h.noZero
  by_cases hnil : path = []
  · simpa [hnil] using fun h : Usable [] => absurd rfl h.ne_nil
  by_cases hlong : pathLimit < path.length
  · simpa [hzero, hnil, hlong] using fun h : Usable path => absurd h.short (by omega)
  · have husable : Usable path := ⟨hzero, hnil, by omega⟩
    simp only [List.contains_eq_mem, hzero, decide_false, Bool.false_eq_true, if_false,
      List.isEmpty_iff, hnil, hlong, walk_eq_ok_iff, hplace, husable, true_and]
    exact and_comm

/-- A path leads to a directory when every name on its way is found in one. -/
theorem stat_eq_directory_iff {fs : FileSystem} {path : Bytes} :
    fs.stat path = .ok .directory ↔ Usable path ∧ fs.Leads (fs.startOf path) (namesOf path) := by
  have hstat : fs.stat path = .ok .directory ↔
      ∃ p, fs.locate path = .ok p ∧ fs.node? p = some .directory := by
    unfold stat
    cases fs.locate path with
    | error fault => simp
    | ok p => cases h : fs.node? p <;> simp [h]
  simp only [hstat, locate_eq_ok_iff, passable_append]
  constructor
  · rintro ⟨p, ⟨husable, rfl, hpass, -⟩, hnode⟩
    exact ⟨husable, hpass, hnode⟩
  · rintro ⟨husable, hpass, hnode⟩
    refine ⟨_, ⟨husable, rfl, hpass, ?_⟩, hnode⟩
    -- a final slash asks for the directory that is there
    split
    · exact ⟨hnode, by decide, trivial⟩
    · trivial

theorem leadsToDirectory_iff {fs : FileSystem} {path : Bytes} :
    fs.leadsToDirectory path = true ↔ fs.stat path = .ok .directory := by
  unfold leadsToDirectory
  split <;> simp_all

end FileSystem

end DocPages
