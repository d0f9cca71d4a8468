import DocPages.Proofs.PublishedFiles
import DocPages.Proofs.WellFormedFiles

/-!
# When Making Directories Succeeds

Making a directory with those that lead to it works from the end of the path: it makes the parent
first, whose path is shorter, and then the directory itself.  It succeeds when the path is one that
the system takes, its names are short, and no file is at a place on the way.  For the directory of a
page's file these conditions follow from conditions on the file.

## Main results

- `FileSystem.namesOf_parentPath`: the parent path has all the names but the last
- `FileSystem.makeDirectories_eq_none`: when directories can be made
- `FileSystem.Usable.directory_join`: the directory of a usable path is usable
- `FileSystem.read_eq_ok_iff`, `FileSystem.read_makeDirectories`: what can be read of a page's file
-/

namespace DocPages

namespace FileSystem

/-! ## §1 The names of the parent -/

theorem namesOf_concat_separator (path : Bytes) :
    namesOf (path ++ [Path.separator]) = namesOf path := by
  rw [namesOf_append_sep]
  simp [namesOf, Bytes.splitOn]

theorem namesOf_of_notMem {s : Bytes} (hne : s ≠ []) (hs : Path.separator ∉ s) : namesOf s = [s] := by
  simp [namesOf, Bytes.splitOn_of_notMem hs, hne]

/-- Slashes at the end of a path add no names. -/
theorem namesOf_dropSeparators (path : Bytes) :
    namesOf (path.rdropWhile (· == Path.separator)) = namesOf path := by
  induction path using List.reverseRecOn with
  | nil => rfl
  | append_singleton path b ih =>
    by_cases hb : b = Path.separator
    · rw [List.rdropWhile_concat_pos _ _ _ (by simp [hb]), ih, hb, namesOf_concat_separator]
    · rw [List.rdropWhile_concat_neg _ _ _ (by simp [hb])]

/-- The path to the parent has all the names but the last. -/
theorem namesOf_parentPath (path : Bytes) : namesOf (parentPath path) = (namesOf path).dropLast := by
  have hparent : parentPath path =
      (path.rdropWhile (· == Path.separator)).rdropWhile (· != Path.separator) := rfl
  rw [hparent, ← namesOf_dropSeparators path]
  have hstop : ∀ hne,
      ¬ ((path.rdropWhile (· == Path.separator)).getLast hne == Path.separator) = true :=
    List.rdropWhile_last_not (· == Path.separator) path
  generalize path.rdropWhile (· == Path.separator) = q at hstop
  -- without the slashes at its end, the path is some beginning and a last name
  have hcut : q.rdropWhile (· != Path.separator) ++ q.rtakeWhile (· != Path.separator) = q :=
    List.rdropWhile_append_rtakeWhile
  have hlast : Path.separator ∉ q.rtakeWhile (· != Path.separator) := by
    intro hmem
    simpa using List.mem_rtakeWhile_imp hmem
  by_cases hq : q = []
  · rw [hq]
    rfl
  have hname : q.rtakeWhile (· != Path.separator) ≠ [] := by
    intro hnil
    exact (List.rtakeWhile_eq_nil_iff.1 hnil) hq (by simpa using hstop hq)
  by_cases hnone : q.rdropWhile (· != Path.separator) = []
  · rw [hnone, List.nil_append] at hcut
    rw [hnone, ← hcut, namesOf_of_notMem hname hlast]
    rfl
  · -- the beginning ends in the slash before the last name
    have hslash : (q.rdropWhile (· != Path.separator)).getLast hnone = Path.separator := by
      simpa using List.rdropWhile_last_not (· != Path.separator) q hnone
    have hbegin := List.dropLast_append_getLast hnone
    rw [hslash] at hbegin
    rw [← hbegin, List.append_assoc, List.singleton_append] at hcut
    have hnames : namesOf q = namesOf (q.rdropWhile (· != Path.separator)).dropLast ++
        [q.rtakeWhile (· != Path.separator)] := by
      conv_lhs => rw [← hcut]
      rw [namesOf_append_sep, namesOf_of_notMem hname hlast]
    rw [hnames, List.dropLast_concat, ← hbegin, namesOf_concat_separator, hbegin]

theorem length_parentPath_lt {path : Bytes} (h : namesOf path ≠ []) :
    (parentPath path).length < path.length := by
  have hbegin : parentPath path <+: path :=
    (List.rdropWhile_prefix (· != Path.separator) _).trans
      (List.rdropWhile_prefix (· == Path.separator) _)
  rcases Nat.lt_or_eq_of_le hbegin.length_le with hlt | heq
  · exact hlt
  · have hnames := namesOf_parentPath path
    rw [hbegin.eq_of_length heq] at hnames
    have hlength := congrArg List.length hnames
    rw [List.length_dropLast] at hlength
    have hpos := List.length_pos_iff.2 h
    omega

/-- A beginning of a usable path is usable. -/
theorem Usable.of_prefix {path begin : Bytes} (h : Usable path) (hne : begin ≠ [])
    (hbegin : begin <+: path) : Usable begin where
  noZero hzero := h.noZero (hbegin.subset hzero)
  ne_nil := hne
  short := hbegin.length_le.trans h.short

theorem Usable.parentPath {path : Bytes} (h : Usable path) (hne : FileSystem.parentPath path ≠ []) :
    Usable (FileSystem.parentPath path) :=
  h.of_prefix hne ((List.rdropWhile_prefix (· != Path.separator) _).trans
    (List.rdropWhile_prefix (· == Path.separator) _))

/-! ## §2 Making directories -/

theorem stat_eq_ok_iff {fs : FileSystem} {path : Bytes} {node : Node} :
    fs.stat path = .ok node ↔
      fs.locate path = .ok (fs.placeOf path) ∧ fs.node? (fs.placeOf path) = some node := by
  unfold stat
  cases hlocate : fs.locate path with
  | error fault => simp
  | ok place =>
    obtain rfl : place = fs.placeOf path := (locate_eq_ok_iff.1 hlocate).2.1
    cases hnode : fs.node? (fs.placeOf path) with
    | none => simp [hnode]
    | some node => simp [hnode]

/-- In a directory, a directory can be made where nothing is. -/
theorem makeDirectory_of_leads {fs : FileSystem} {path : Bytes} {pre : List Bytes} {n : Bytes}
    (husable : Usable path) (hnames : namesOf path = pre ++ [n]) (hhere : n ≠ Path.here)
    (habove : n ≠ Path.above) (hshort : n.length ≤ nameLimit)
    (hpre : fs.Leads (fs.startOf path) pre) (hfree : fs.node? (fs.placeOf path) = none) :
    fs.makeDirectory path = .ok (fs.put (fs.placeOf path) .directory) := by
  have hplace : fs.placeOf path = (fs.startOf path).along pre ++ [n] := by
    rw [placeOf, hnames, Place.along_append]
    exact Place.enter_name _ hhere habove
  have hwalk : fs.walk (fs.startOf path) pre = .ok ((fs.startOf path).along pre) :=
    walk_eq_ok_iff.2 ⟨hpre.1, rfl⟩
  rw [hplace] at hfree ⊢
  simp [makeDirectory, husable.noZero, husable.ne_nil, Nat.not_lt.2 husable.short, hnames, hwalk,
    hpre.2, hhere, habove, Nat.not_lt.2 hshort, hfree]

/-- In a directory, a directory can be made unless a file is there; there may be one already. -/
theorem makeDirectory_or_directory {fs : FileSystem} {path : Bytes} {pre : List Bytes} {n : Bytes}
    (husable : Usable path) (hnames : namesOf path = pre ++ [n]) (hhere : n ≠ Path.here)
    (habove : n ≠ Path.above) (hshort : n.length ≤ nameLimit)
    (hpre : fs.Leads (fs.startOf path) pre)
    (hfile : ∀ c, fs.node? (fs.placeOf path) ≠ some (.file c)) :
    (∃ made, fs.makeDirectory path = .ok made) ∨ fs.leadsToDirectory path = true := by
  cases hnode : fs.node? (fs.placeOf path) with
  | none => exact Or.inl ⟨_, makeDirectory_of_leads husable hnames hhere habove hshort hpre hnode⟩
  | some node =>
    cases node with
    | file c => exact absurd hnode (hfile c)
    | directory =>
      right
      rw [leadsToDirectory_iff, stat_eq_directory_iff, hnames, leads_concat]
      refine ⟨husable, hpre, hshort, ?_⟩
      rw [← hnode, placeOf, hnames, Place.along_append]
      rfl

/-- Once the parents are made, a directory can be made if no file is in its place. -/
theorem makeDirectoriesWith_succ {fuel : Nat} {fs fs' : FileSystem} {path : Bytes}
    (hfile : ∀ c, fs.node? (fs.placeOf path) ≠ some (.file c))
    (hparents : (if (parentPath path).isEmpty then (fs, none)
      else makeDirectoriesWith fuel fs (parentPath path)) = (fs', none))
    (hlast : (∃ made, fs'.makeDirectory path = .ok made) ∨ fs'.leadsToDirectory path = true) :
    (makeDirectoriesWith (fuel + 1) fs path).2 = none := by
  rw [makeDirectoriesWith]
  cases hstat : fs.stat path with
  | ok node =>
    cases node with
    | directory => rfl
    | file c => exact absurd (stat_eq_ok_iff.1 hstat).2 (hfile c)
  | error fault =>
    dsimp only
    rw [hparents]
    dsimp only
    cases hmade : fs'.makeDirectory path with
    | ok made => rfl
    | error e =>
      have hthere : fs'.leadsToDirectory path = true := by simpa [hmade] using hlast
      rw [hthere]
      rfl

/-- Directories can be made along a path that leads to a directory and from there on by short names,
    if no file is in the way. -/
theorem makeDirectories_eq_none {fs : FileSystem} {path : Bytes} {base ns : List Bytes}
    (husable : Usable path) (hnames : namesOf path = base ++ ns)
    (hbase : fs.Leads (fs.startOf path) base)
    (hns : ∀ n ∈ ns, (n ≠ Path.here ∧ n ≠ Path.above) ∧ n.length ≤ nameLimit)
    (hway : ∀ pre, pre <+: ns → ∀ c,
      fs.node? ((fs.startOf path).along base ++ pre) ≠ some (.file c)) :
    (fs.makeDirectories path).2 = none := by
  suffices hall : ∀ fuel q ns', ns' <+: ns → Usable q →
      Path.isAbsolute q = Path.isAbsolute path → namesOf q = base ++ ns' → q.length < fuel →
        (makeDirectoriesWith fuel fs q).2 = none from
    hall _ path ns (List.prefix_refl ns) husable rfl hnames (Nat.lt_succ_self _)
  intro fuel
  -- the fuel covers the text of the path, and the text of the parent is shorter
  induction fuel with
  | zero =>
    intro q ns' _ _ _ _ hfuel
    omega
  | succ fuel ih =>
    intro q ns' hns' husable hq hnames hfuel
    have hstart : fs.startOf q = fs.startOf path := startOf_congr rfl hq
    rcases List.eq_nil_or_concat ns' with rfl | ⟨ms, n, hms⟩
    · -- no name is left to make
      rw [List.append_nil] at hnames
      have hstat : fs.stat q = .ok .directory :=
        stat_eq_directory_iff.2 ⟨husable, by rwa [hnames, hstart]⟩
      rw [makeDirectoriesWith, hstat]
    rw [List.concat_eq_append] at hms
    subst hms
    obtain ⟨⟨hhere, habove⟩, hshort⟩ := hns n (hns'.subset (by simp))
    have hfile : ∀ c, fs.node? (fs.placeOf q) ≠ some (.file c) := by
      have hplace : fs.placeOf q = (fs.startOf path).along base ++ (ms ++ [n]) := by
        rw [placeOf, hnames, Place.along_append, hstart]
        exact Place.along_names _ fun m hm => (hns m (hns'.subset hm)).1
      rw [hplace]
      exact hway _ hns'
    have hparents : namesOf (parentPath q) = base ++ ms := by
      rw [namesOf_parentPath, hnames, ← List.append_assoc, List.dropLast_concat]
    -- the parents are there or can be made
    obtain ⟨fs', hmade, hleads, hedits⟩ : ∃ fs', (if (parentPath q).isEmpty then (fs, none)
        else makeDirectoriesWith fuel fs (parentPath q)) = (fs', none) ∧
          fs'.Leads (fs'.startOf q) (base ++ ms) ∧ Edits (fs.OnWay q) (fun _ _ => False) fs fs' := by
      by_cases hnil : parentPath q = []
      · rw [hnil] at hparents
        obtain ⟨rfl, rfl⟩ := List.append_eq_nil_iff.1 hparents.symm
        exact ⟨fs, by simp [hnil], by rwa [hstart], Edits.refl _ _ _⟩
      · have hshorter : (parentPath q).length < q.length :=
          length_parentPath_lt (by simp [hnames])
        have hnone := ih (parentPath q) ms ((List.prefix_append _ _).trans hns')
          (husable.parentPath hnil) ((isAbsolute_parentPath hnil).trans hq) hparents (by omega)
        have hstat := (stat_eq_directory_iff.1 (stat_makeDirectoriesWith hnone)).2
        rw [hparents, startOf_congr rfl (isAbsolute_parentPath hnil)] at hstat
        refine ⟨_, by rw [if_neg (by simpa using hnil), ← hnone], hstat, ?_⟩
        exact (makeDirectoriesWith_edits _ fuel fs _).mono (fun x _ hx => hx.of_parentPath hnil)
          fun _ _ h => h
    have hfile' : ∀ c, fs'.node? (fs'.placeOf q) ≠ some (.file c) := by
      intro c
      rw [hedits.placeOf_eq q, ne_eq, hedits.node?_file_iff fun _ => id]
      exact hfile c
    apply makeDirectoriesWith_succ hfile hmade
    exact makeDirectory_or_directory husable (by rw [hnames, List.append_assoc]) hhere habove hshort
      hleads hfile'

end FileSystem

/-! ## §3 The text of a page's path -/

theorem Bytes.join_concat {sep : Bytes} {ns : List Bytes} (hne : ns ≠ []) (n : Bytes) :
    join sep (ns ++ [n]) = join sep ns ++ (sep ++ n) := by
  obtain ⟨m, ms, rfl⟩ := List.exists_cons_of_ne_nil hne
  simp [join_cons]

namespace Path

/-- The text of a path ends with its last name. -/
theorem exists_ofComponents_concat (absolute : Bool) (ns : List Bytes) (n : Bytes) :
    ∃ before, ofComponents absolute (ns ++ [n]) = before ++ n := by
  have hjoin : ∃ before, Bytes.join [separator] (ns ++ [n]) = before ++ n := by
    by_cases hne : ns = []
    · exact ⟨[], by simp [hne, Bytes.join]⟩
    · exact ⟨Bytes.join [separator] ns ++ [separator], by simp [Bytes.join_concat hne]⟩
  obtain ⟨before, hbefore⟩ := hjoin
  cases absolute with
  | true => exact ⟨separator :: before, by simp [ofComponents, hbefore]⟩
  | false => exact ⟨before, by simp [ofComponents, hbefore]⟩

/-- The text of the directory of a cleaned path is made of all its names but the last. -/
theorem directory_clean (path : Bytes) :
    directory (clean path) = ofComponents (isAbsolute path) (components path).dropLast := by
  obtain ⟨hnames, habsolute⟩ := components_directory path
  obtain ⟨y, hy⟩ := exists_clean_directory (clean path)
  rw [hy, components_clean] at hnames
  rw [hy, isAbsolute_clean] at habsolute
  rw [hy, clean, hnames, habsolute]

end Path

namespace FileSystem

/-- The directory of a usable cleaned path is usable. -/
theorem Usable.directory_clean {path : Bytes} (h : Usable (Path.clean path)) :
    Usable (Path.directory (Path.clean path)) := by
  rw [Path.directory_clean]
  by_cases hnil : (Path.components path).dropLast = []
  · -- the directory is the root or the start
    rw [hnil]
    cases Path.isAbsolute path <;> exact ⟨by decide, by decide, by decide⟩
  · -- its text is a beginning of the text of the path
    obtain ⟨m, ms, hms⟩ := List.exists_cons_of_ne_nil hnil
    have hne : Path.components path ≠ [] := by
      intro hempty
      simp [hempty] at hnil
    have hm : m ≠ [] := (Path.ne_nil_of_mem_components
      (List.mem_of_mem_dropLast (by rw [hms]; exact List.mem_cons_self))).1
    have hjoin := @Bytes.join_concat [Path.separator] _ hnil ((Path.components path).getLast hne)
    rw [List.dropLast_append_getLast] at hjoin
    apply h.of_prefix
    · cases Path.isAbsolute path <;> simp [Path.ofComponents, hms, Bytes.join_cons, hm]
    · cases habsolute : Path.isAbsolute path with
      | true =>
        refine ⟨[Path.separator] ++ (Path.components path).getLast hne, ?_⟩
        simp [Path.clean, Path.ofComponents, habsolute, hjoin]
      | false =>
        refine ⟨[Path.separator] ++ (Path.components path).getLast hne, ?_⟩
        simp [Path.clean, Path.ofComponents, habsolute, hjoin, hne, hnil]

section Join

variable {dir path : Bytes}

theorem Usable.directory_join (hlocal : Path.isLocal path = true) (h : Usable (Path.join dir path)) :
    Usable (Path.directory (Path.join dir path)) := by
  obtain ⟨y, hy⟩ := Path.exists_clean_join dir (Path.isLocal_iff.1 hlocal).1
  rw [hy] at h ⊢
  exact h.directory_clean

theorem namesOf_join (hlocal : Path.isLocal path = true) (hne : Path.components path ≠ []) :
    namesOf (Path.join dir path) = Path.components dir ++ Path.components path := by
  obtain ⟨y, hy⟩ := Path.exists_clean_join dir (Path.isLocal_iff.1 hlocal).1
  have hcomponents := @Path.components_join dir path hlocal
  rw [hy, Path.components_clean] at hcomponents
  rcases namesOf_clean y with hnames | ⟨hnil, -⟩
  · rw [hy, hnames, hcomponents]
  · rw [hnil] at hcomponents
    exact absurd (List.append_eq_nil_iff.1 hcomponents.symm).2 hne

theorem getLast?_join_ne (hlocal : Path.isLocal path = true) (hne : Path.components path ≠ []) :
    (Path.join dir path).getLast? ≠ some Path.separator := by
  obtain ⟨y, hy⟩ := Path.exists_clean_join dir (Path.isLocal_iff.1 hlocal).1
  have hcomponents := @Path.components_join dir path hlocal
  rw [hy, Path.components_clean] at hcomponents
  obtain ⟨ns, n, hsplit⟩ := (List.eq_nil_or_concat (Path.components path)).resolve_left hne
  rw [List.concat_eq_append] at hsplit
  have hn := Path.ne_nil_of_mem_components (show n ∈ Path.components path by simp [hsplit])
  obtain ⟨before, hbefore⟩ :=
    Path.exists_ofComponents_concat (Path.isAbsolute y) (Path.components dir ++ ns) n
  rw [hy, Path.clean, hcomponents, hsplit, ← List.append_assoc, hbefore,
    List.getLast?_append_of_ne_nil _ hn.1]
  intro hlast
  exact hn.2.2 (List.mem_of_getLast? hlast)

/-- A page's file is found by following the names of the output directory and those of the page. -/
theorem locate_join_iff {fs : FileSystem} (hlocal : Path.isLocal path = true)
    (hne : Path.components path ≠ []) :
    fs.locate (Path.join dir path) = .ok (fs.placeOf (Path.join dir path)) ↔
      Usable (Path.join dir path) ∧
        fs.Passable (fs.startOf dir) (Path.components dir ++ Path.components path) := by
  rw [locate_eq_ok_iff, namesOf_join hlocal hne, if_neg (getLast?_join_ne hlocal hne),
    List.append_nil, startOf_congr rfl (Path.isAbsolute_join hlocal)]
  simp

/-- Once the directory of a page's file is there, the path of the file can be followed. -/
theorem locate_join_of_stat {fs : FileSystem} (hlocal : Path.isLocal path = true)
    (hne : Path.components path ≠ []) (husable : Usable (Path.join dir path))
    (hshort : ∀ n ∈ Path.components path, n.length ≤ nameLimit)
    (hstat : fs.stat (Path.directory (Path.join dir path)) = .ok .directory) :
    fs.locate (Path.join dir path) = .ok (fs.placeOf (Path.join dir path)) := by
  refine (locate_join_iff hlocal hne).2 ⟨husable, ?_⟩
  have hleads := (stat_eq_directory_iff.1 hstat).2.components
  obtain ⟨hcomponents, habsolute⟩ := @Path.components_directory_join dir _ hlocal
  rw [hcomponents, startOf_congr rfl habsolute, List.dropLast_append_of_ne_nil hne] at hleads
  -- the names but the last lead to the directory, and the last is short
  have hlast : Path.components dir ++ Path.components path =
      Path.components dir ++ (Path.components path).dropLast ++
        [(Path.components path).getLast hne] := by
    rw [List.append_assoc, List.dropLast_append_getLast]
  rw [hlast, passable_append]
  exact ⟨hleads.1, hleads.2, hshort _ (List.getLast_mem hne), trivial⟩

end Join

/-! ## §4 Reading a page's file -/

theorem read_eq_ok_iff {fs : FileSystem} {path content : Bytes} :
    fs.read path = .ok content ↔
      fs.locate path = .ok (fs.placeOf path) ∧ fs.node? (fs.placeOf path) = some (.file content) := by
  rw [← stat_eq_ok_iff]
  unfold read
  cases fs.stat path with
  | error fault => simp
  | ok node => cases node <;> simp

theorem holds_iff {fs : FileSystem} {path content : Bytes} :
    fs.holds path content = true ↔ fs.read path = .ok content := by
  unfold holds
  cases fs.read path <;> simp

theorem Passable.short {fs : FileSystem} {place : Place} {ns : List Bytes} (h : fs.Passable place ns)
    (n : Bytes) (hn : n ∈ ns) : n.length ≤ nameLimit := by
  induction ns generalizing place with
  | nil => cases hn
  | cons m ns ih =>
    rcases List.mem_cons.1 hn with rfl | hmem
    · exact h.2.1
    · exact ih h.2.2 hmem

/-- A path that can be followed can be followed after edits. -/
theorem Edits.locate {made : Place → Prop} {filed : Place → Bytes → Prop} {fs fs' : FileSystem}
    (h : Edits made filed fs fs') {path : Bytes} (hlocate : fs.locate path = .ok (fs.placeOf path)) :
    fs'.locate path = .ok (fs'.placeOf path) := by
  obtain ⟨husable, -, hpass⟩ := locate_eq_ok_iff.1 hlocate
  refine locate_eq_ok_iff.2 ⟨husable, rfl, ?_⟩
  rw [h.startOf_eq]
  exact hpass.mono h.keeps_directories

/-- What can be read can be read after edits, unless a file was written there. -/
theorem Edits.read {made : Place → Prop} {filed : Place → Bytes → Prop} {fs fs' : FileSystem}
    (h : Edits made filed fs fs') {path content : Bytes} (hread : fs.read path = .ok content)
    (hfiled : ∀ c, ¬ filed (fs.placeOf path) c) : fs'.read path = .ok content := by
  obtain ⟨hlocate, hnode⟩ := read_eq_ok_iff.1 hread
  refine read_eq_ok_iff.2 ⟨h.locate hlocate, ?_⟩
  rw [h.placeOf_eq, h.node?_file_iff hfiled]
  exact hnode

/-- Short names lead from a directory to whatever is below it. -/
theorem WellFormed.passable_names {fs : FileSystem} (hwf : fs.WellFormed) {place : Place}
    {ns : List Bytes} (hplace : fs.node? place = some .directory)
    (hns : ∀ n ∈ ns, (n ≠ Path.here ∧ n ≠ Path.above) ∧ n.length ≤ nameLimit)
    (hend : fs.node? (place ++ ns) ≠ none) : fs.Passable place ns := by
  induction ns generalizing place with
  | nil => trivial
  | cons n ns ih =>
    obtain ⟨⟨⟨hhere, habove⟩, hshort⟩, hns⟩ := List.forall_mem_cons.1 hns
    refine ⟨hplace, hshort, ?_⟩
    rw [Place.enter_name place hhere habove]
    cases ns with
    | nil => trivial
    | cons m ns =>
      have hsplit : place ++ n :: m :: ns = place ++ [n] ++ m :: ns := by simp
      rw [hsplit] at hend
      exact ih (hwf.above hend (List.prefix_append _ _) (by simp)) hns hend

/-- Cleaned names lead from a directory to whatever is at their end: above a directory there are
    directories, and so there are between it and what is below it. -/
theorem WellFormed.passable {fs : FileSystem} (hwf : fs.WellFormed) {absolute : Bool} {start : Place}
    {ns : List Bytes} (hclean : Path.Tidy absolute ns.reverse)
    (hstart : fs.node? start = some .directory) (hshort : ∀ n ∈ ns, n.length ≤ nameLimit)
    (hend : fs.node? (start.along ns) ≠ none) : fs.Passable start ns := by
  obtain ⟨ms, k, hsplit, habove, -⟩ := hclean.climbs
  have hns : ns = List.replicate k Path.above ++ ms.reverse := by
    rw [← List.reverse_reverse ns, hsplit, List.reverse_append, List.reverse_replicate]
  have hnames : ∀ n ∈ ms.reverse, (n ≠ Path.here ∧ n ≠ Path.above) ∧ n.length ≤ nameLimit := by
    intro n hn
    have hmem : n ∈ ns := by simp [hns, List.mem_reverse.1 hn]
    refine ⟨⟨(hclean.name n (List.mem_reverse.2 hmem)).2.1, ?_⟩, hshort n hmem⟩
    rintro rfl
    exact habove (List.mem_reverse.1 hn)
  rw [hns] at hend ⊢
  clear hns hsplit hclean hshort
  induction k generalizing start with
  | zero =>
    rw [List.replicate_zero, List.nil_append] at hend ⊢
    rw [Place.along_names _ fun n hn => (hnames n hn).1] at hend
    exact hwf.passable_names hstart hnames hend
  | succ k ih =>
    rw [List.replicate_succ, List.cons_append] at hend ⊢
    rw [Place.along_cons, Place.enter_above] at hend
    refine ⟨hstart, by decide, ?_⟩
    rw [Place.enter_above]
    exact ih (hwf.node?_dropLast (by simp [hstart])) hend

/-- Making directories changes nothing at the place that their paths start from. -/
theorem node?_start_makeDirectories (fs : FileSystem) (path : Bytes) :
    (fs.makeDirectories path).1.node? (fs.startOf path) = fs.node? (fs.startOf path) := by
  suffices hkeep : (fs.makeDirectories path).1.workingDirectory = fs.workingDirectory ∧
      (fs.makeDirectories path).1.node? (fs.startOf path) = fs.node? (fs.startOf path) from hkeep.2
  apply @makeDirectories_keeps fun fs' => fs'.workingDirectory = fs.workingDirectory ∧
    fs'.node? (fs.startOf path) = fs.node? (fs.startOf path)
  · intro fs' fs'' q hq ⟨hworking, hstart⟩ hmade
    -- a directory is made where nothing is, and the start is a directory
    obtain ⟨-, pre, n, -, -, -, -, hpre, hfree, rfl⟩ := makeDirectory_eq_ok hmade
    refine ⟨hworking, ?_⟩
    have hdir : fs'.node? (fs'.startOf q) = some .directory := (hpre.of_prefix List.nil_prefix).2
    rw [startOf_congr hworking hq] at hdir
    have hne : fs.startOf path ≠ fs'.placeOf q := by
      intro heq
      rw [heq, hfree] at hdir
      cases hdir
    rw [node?_put fs' (ne_nil_of_node? fs' (by simp [hfree])), if_neg hne, hstart]
  · exact ⟨rfl, rfl⟩

/-- Making the output directory does not change what can be read of a page's file. -/
theorem read_makeDirectories {fs : FileSystem} (hwf : fs.WellFormed) {dir path content : Bytes}
    (hlocal : Path.isLocal path = true) (hmade : (fs.makeDirectories dir).2 = none) :
    (fs.makeDirectories dir).1.read (Path.join dir path) = .ok content ↔
      fs.read (Path.join dir path) = .ok content := by
  have hedits := makeDirectories_edits (fun _ _ => False) fs dir
  refine ⟨fun hread => ?_, fun hread => hedits.read hread fun _ => id⟩
  have hdir := (stat_eq_directory_iff.1 (stat_makeDirectories hmade)).2.2
  have hstart := node?_start_makeDirectories fs dir
  obtain ⟨hlocate, hnode⟩ := read_eq_ok_iff.1 hread
  -- the file is not the output directory, so the page has names
  have hne : Path.components path ≠ [] := by
    intro hnil
    rw [Publish.placeOf_join _ hlocal, hnil, List.append_nil] at hnode
    rw [placeOf, hdir] at hnode
    cases hnode
  obtain ⟨husable, hpass⟩ := (locate_join_iff hlocal hne).1 hlocate
  have hnode' : fs.node? (fs.placeOf (Path.join dir path)) = some (.file content) := by
    rwa [hedits.placeOf_eq, hedits.node?_file_iff fun _ => id] at hnode
  refine read_eq_ok_iff.2 ⟨(locate_join_iff hlocal hne).2 ⟨husable, ?_⟩, hnode'⟩
  have hcomponents := @Path.components_join dir path hlocal
  apply @WellFormed.passable fs hwf (Path.isAbsolute (Path.join dir path))
  · rw [← hcomponents]
    exact Path.components_tidy _
  · obtain ⟨n, ns, hnames⟩ := List.exists_cons_of_ne_nil (List.append_ne_nil_of_right_ne_nil
      (Path.components dir) hne)
    rw [hnames] at hpass
    rw [← hstart, ← hedits.startOf_eq dir]
    exact hpass.1
  · exact hpass.short
  · rw [← hcomponents, ← startOf_congr rfl (Path.isAbsolute_join hlocal), ← placeOf_eq_components,
      hnode']
    simp

end FileSystem

end DocPages
