import DocPages.Proofs.DirectoryMaking

/-!
# Writing Pages in Any Order

Writing one page is a task: compare its file, make the directories that lead to it, write it, count
it.  Whether a task succeeds depends on the page and on what is at the place of its file and above it;
and a task that succeeds changes nothing but that place and what was missing above it.  So the tasks of
several pages succeed exactly when each of them could start, and no page's file is at or above the
place of another's.  Nothing in this depends on the order of the tasks, and neither does what they
leave.

## Main results

- `Publish.Fits`, `Publish.Room`: when a page can be written
- `Publish.Ready.writePage_eq_ok`, `Publish.Ready.exists_writePage`: one task
- `Publish.Ready.writes`, `Publish.Ready.exists_writes`: all tasks
- `Publish.write_order_independent`: the order of the tasks does not matter
-/

namespace DocPages

/-- A local path is followed to the same text when its cleaned names are the same. -/
theorem Path.join_congr {dir path path' : Bytes} (h : isLocal path = true) (h' : isLocal path' = true)
    (hnames : components path = components path') : join dir path = join dir path' := by
  obtain ⟨y, hy⟩ := exists_clean_join dir (isLocal_iff.1 h).1
  obtain ⟨y', hy'⟩ := exists_clean_join dir (isLocal_iff.1 h').1
  have hjoin := @components_join dir path h
  have hjoin' := @components_join dir path' h'
  have habsolute := @isAbsolute_join dir path h
  have habsolute' := @isAbsolute_join dir path' h'
  rw [hy, components_clean] at hjoin
  rw [hy', components_clean] at hjoin'
  rw [hy, isAbsolute_clean] at habsolute
  rw [hy', isAbsolute_clean] at habsolute'
  rw [hy, hy', clean, clean, hjoin, hjoin', habsolute, habsolute', hnames]

theorem FileSystem.write_of_locate {fs : FileSystem} {path : Bytes} (content : Bytes)
    (hlocate : fs.locate path = .ok (fs.placeOf path))
    (hdir : fs.node? (fs.placeOf path) ≠ some .directory) :
    fs.write path content = .ok (fs.put (fs.placeOf path) (.file content)) := by
  unfold FileSystem.write
  rw [hlocate]
  dsimp only
  split
  · rename_i hnode
    exact absurd hnode hdir
  · rfl

namespace Publish

open FileSystem

/-! ## §1 When a page can be written -/

/-- The place of a page's file. -/
def filePlace (fs : FileSystem) (dir : Bytes) (page : Page) : Place :=
  fs.placeOf (Path.join dir page.path)

/-- Whether a page's file holds the bytes of the page. -/
def held (fs : FileSystem) (dir : Bytes) (page : Page) : Bool :=
  fs.holds (Path.join dir page.path) page.content

/-- A page whose path the system takes: it stays below the output directory and is short enough, and
    so are its names. -/
structure Fits (dir : Bytes) (page : Page) : Prop where
  isLocal : Path.isLocal page.path = true
  usable : Usable (Path.join dir page.path)
  short : ∀ n ∈ Path.components page.path, n.length ≤ nameLimit

/-- A place where a file can be put: no file is above it, and no directory is there. -/
structure Room (fs : FileSystem) (place : Place) : Prop where
  way : ∀ x, x <+: place → x ≠ place → ∀ c, fs.node? x ≠ some (.file c)
  free : fs.node? place ≠ some .directory

/-- A well-formed file system with the output directory in it. -/
structure Ready (dir : Bytes) (fs : FileSystem) : Prop where
  wellFormed : fs.WellFormed
  directory : fs.Leads (fs.startOf dir) (Path.components dir)

/-- The files of some pages have been put, with the directories above them, and all else is as it
    was. -/
structure Filed (dir : Bytes) (pages : List Page) (fs fs' : FileSystem) : Prop where
  workingDirectory : fs'.workingDirectory = fs.workingDirectory
  file : ∀ p ∈ pages, fs'.node? (filePlace fs dir p) = some (.file p.content)
  way : ∀ p ∈ pages, ∀ x, x <+: filePlace fs dir p → x ≠ filePlace fs dir p →
    fs'.node? x = some .directory
  rest : ∀ x, (∀ p ∈ pages, ¬ x <+: filePlace fs dir p) → fs'.node? x = fs.node? x

theorem filePlace_eq (fs : FileSystem) {dir : Bytes} {page : Page}
    (hlocal : Path.isLocal page.path = true) :
    filePlace fs dir page = fs.placeOf dir ++ Path.components page.path := placeOf_join fs hlocal

theorem filePlace_congr {fs fs' : FileSystem} (hfs : fs'.workingDirectory = fs.workingDirectory)
    (dir : Bytes) (page : Page) : filePlace fs' dir page = filePlace fs dir page :=
  placeOf_congr hfs _

theorem held_iff {fs : FileSystem} {dir : Bytes} {page : Page} :
    held fs dir page = true ↔ fs.read (Path.join dir page.path) = .ok page.content := holds_iff

/-- What a task that succeeds did: it found the page held, or made the directories and wrote it. -/
theorem writePage_cases {dir : Bytes} {fs fs' : FileSystem} {page : Page} {written : Bool}
    (h : writePage dir fs page = (fs', .ok written)) :
    Path.isLocal page.path = true ∧
      (held fs dir page = true ∧ written = false ∧ fs' = fs ∨
        held fs dir page = false ∧ written = true ∧
          ∃ fs₁, fs.makeDirectories (Path.directory (Path.join dir page.path)) = (fs₁, none) ∧
            fs₁.write (Path.join dir page.path) page.content = .ok fs') := by
  unfold writePage at h
  cases htarget : pagePath dir page.path with
  | error e => simp [htarget] at h
  | ok target =>
    obtain ⟨hlocal, rfl⟩ := pagePath_eq_ok_iff.1 htarget
    simp only [htarget] at h
    refine ⟨hlocal, ?_⟩
    unfold held
    cases hheld : fs.holds (Path.join dir page.path) page.content with
    | true =>
      rw [if_pos hheld] at h
      obtain ⟨hfs, hwritten⟩ := Prod.mk.inj h
      exact Or.inl ⟨rfl, (Except.ok.inj hwritten).symm, hfs.symm⟩
    | false =>
      rw [if_neg (Bool.eq_false_iff.1 hheld)] at h
      rcases hmade : fs.makeDirectories (Path.directory (Path.join dir page.path)) with ⟨fs₁, _ | cause⟩
      · cases hput : fs₁.write (Path.join dir page.path) page.content with
        | error cause => simp [hmade, hput] at h
        | ok fs₂ =>
          simp only [hmade, hput] at h
          obtain ⟨rfl, hwritten⟩ := Prod.mk.inj h
          exact Or.inr ⟨rfl, (Except.ok.inj hwritten).symm, fs₁, rfl, hput⟩
      · simp [hmade] at h

namespace Ready

variable {dir : Bytes} {fs fs' : FileSystem} {page : Page}

theorem of_edits (h : Ready dir fs) {made : Place → Prop} {filed : Place → Bytes → Prop}
    (hedits : Edits made filed fs fs') (hwf : fs'.WellFormed) : Ready dir fs' := by
  refine ⟨hwf, ?_⟩
  rw [hedits.startOf_eq]
  exact h.directory.mono hedits.keeps_directories

theorem node?_directory (h : Ready dir fs) : fs.node? (fs.placeOf dir) = some .directory := by
  rw [placeOf_eq_components]
  exact h.directory.2

/-- A file is not the output directory, so its page has names. -/
theorem components_ne_nil (h : Ready dir fs) (hlocal : Path.isLocal page.path = true)
    (hfree : fs.node? (filePlace fs dir page) ≠ some .directory) :
    Path.components page.path ≠ [] := by
  intro hnil
  rw [filePlace_eq fs hlocal, hnil, List.append_nil] at hfree
  exact hfree h.node?_directory

theorem fits_of_locate (h : Ready dir fs) (hlocal : Path.isLocal page.path = true)
    (hfree : fs.node? (filePlace fs dir page) ≠ some .directory)
    (hlocate : fs.locate (Path.join dir page.path) = .ok (filePlace fs dir page)) :
    Fits dir page := by
  obtain ⟨husable, hpass⟩ :=
    (locate_join_iff hlocal (h.components_ne_nil hlocal hfree)).1 hlocate
  exact ⟨hlocal, husable, fun n hn => hpass.short n (List.mem_append_right _ hn)⟩

/-- A page's file can be read when the page fits and the file is there. -/
theorem read_iff (h : Ready dir fs) (hlocal : Path.isLocal page.path = true) {content : Bytes} :
    fs.read (Path.join dir page.path) = .ok content ↔
      Fits dir page ∧ fs.node? (filePlace fs dir page) = some (.file content) := by
  rw [read_eq_ok_iff]
  constructor
  · intro ⟨hlocate, hnode⟩
    refine ⟨h.fits_of_locate hlocal ?_ hlocate, hnode⟩
    rw [filePlace, hnode]
    simp
  · intro ⟨hfits, hnode⟩
    have hne := h.components_ne_nil hlocal (by rw [hnode]; simp)
    refine ⟨(locate_join_iff hlocal hne).2 ⟨hfits.usable, ?_⟩, hnode⟩
    -- the names lead to the output directory and from there to the file
    rw [passable_append, ← placeOf_eq_components]
    refine ⟨h.directory.1, h.wellFormed.passable_names h.node?_directory ?_ ?_⟩
    · intro n hn
      exact ⟨mem_components_of_isLocal hlocal n hn, hfits.short n hn⟩
    · rw [← filePlace_eq fs hlocal, hnode]
      simp

/-! ## §2 One task -/

/-- A task keeps the file system well formed and the output directory in it, also when it fails. -/
theorem writePage (h : Ready dir fs) (page : Page) : Ready dir (writePage dir fs page).1 := by
  apply h.of_edits (writePage_edits h.directory page)
  unfold Publish.writePage
  split
  · exact h.wellFormed
  · rename_i target _
    have hwf := h.wellFormed.makeDirectories (Path.directory target)
    split
    · exact h.wellFormed
    · split
      · rename_i hmade
        rwa [hmade] at hwf
      · rename_i hmade
        rw [hmade] at hwf
        split
        · exact hwf
        · rename_i hput
          exact hwf.write hput

/-- Making the directories above a page's file changes nothing that is not properly above it. -/
theorem node?_makeDirectories (h : Ready dir fs) (hlocal : Path.isLocal page.path = true) {x : Place}
    (hx : ¬ (x <+: filePlace fs dir page ∧ x ≠ filePlace fs dir page)) :
    (fs.makeDirectories (Path.directory (Path.join dir page.path))).1.node? x = fs.node? x := by
  rcases (makeDirectories_edits (fun _ _ => False) fs _).node x with
    hkept | ⟨hnone, -, hon⟩ | ⟨_, -, -, hno⟩
  · exact hkept
  · -- a directory that was made is below the output directory and above the file
    obtain ⟨more, hmore, rfl⟩ := exists_below_of_onWay h.directory hlocal hon hnone
    rw [filePlace_eq fs hlocal] at hx
    refine absurd ⟨(List.prefix_append_right_inj _).2 (hmore.trans (List.dropLast_prefix _)), ?_⟩ hx
    intro heq
    have hlength := hmore.length_le
    rw [List.append_cancel_left heq, List.length_dropLast] at hlength
    -- only a page without names has its file where the output directory is
    have hnil : Path.components page.path = [] := List.eq_nil_of_length_eq_zero (by omega)
    rw [List.append_cancel_left heq, hnil, List.append_nil, h.node?_directory] at hnone
    cases hnone
  · exact hno.elim

/-- A task that succeeds leaves the page's file with the directories above it, and nothing else. -/
theorem filed_writePage (h : Ready dir fs) {written : Bool}
    (hwrite : Publish.writePage dir fs page = (fs', .ok written)) :
    Fits dir page ∧ written = (!held fs dir page) ∧ Filed dir [page] fs fs' := by
  have hready' := h.writePage page
  rw [hwrite] at hready'
  obtain ⟨hlocal, ⟨hheld, rfl, rfl⟩ | ⟨hheld, rfl, fs₁, hmade, hput⟩⟩ := writePage_cases hwrite
  · -- the file holds the bytes of the page already
    obtain ⟨hfits, hnode⟩ := (h.read_iff hlocal).1 (held_iff.1 hheld)
    refine ⟨hfits, by rw [hheld]; rfl, rfl, ?_, ?_, fun _ _ => rfl⟩
    · exact List.forall_mem_singleton.2 hnode
    · exact List.forall_mem_singleton.2 fun x => h.wellFormed.above (by rw [hnode]; simp)
  have hedits := makeDirectories_edits (fun _ _ => False) fs (Path.directory (Path.join dir page.path))
  have hwf := h.wellFormed.makeDirectories (Path.directory (Path.join dir page.path))
  have hmade' := @Ready.node?_makeDirectories dir fs page h hlocal
  rw [hmade] at hedits hwf hmade'
  have hready : Ready dir fs₁ := h.of_edits hedits hwf
  obtain ⟨hlocate, hdir, hfs'⟩ := write_eq_ok hput
  have hplace : fs₁.placeOf (Path.join dir page.path) = filePlace fs dir page := hedits.placeOf_eq _
  rw [hplace] at hdir hfs'
  have hnode : ∀ x, fs'.node? x =
      if x = filePlace fs dir page then some (.file page.content) else fs₁.node? x := by
    rw [hfs']
    exact node?_put fs₁ (ne_nil_of_node? fs₁ hdir) _
  refine ⟨?_, by rw [hheld]; rfl, ?_, ?_, ?_, ?_⟩
  · apply hready.fits_of_locate hlocal
    · rwa [filePlace_congr hedits.workingDirectory]
    · exact hlocate
  · rw [hfs']
    exact hedits.workingDirectory
  · exact List.forall_mem_singleton.2 (by rw [hnode, if_pos rfl])
  · exact List.forall_mem_singleton.2 fun x =>
      hready'.wellFormed.above (by rw [hnode, if_pos rfl]; simp)
  · intro x hx
    have hoff := hx page List.mem_cons_self
    have hne : x ≠ filePlace fs dir page := by
      rintro rfl
      exact hoff (List.prefix_refl _)
    rw [hnode, if_neg hne, hmade' fun hbelow => hoff hbelow.1]

/-- Where a task succeeded there was room: what is above the file is a directory now, and no file
    became one. -/
theorem room_of_filed (h : Ready dir fs)
    (hfiled : Filed dir [page] fs (Publish.writePage dir fs page).1) :
    Room fs (filePlace fs dir page) := by
  have hedits := writePage_edits h.directory page
  refine ⟨fun x hx hne c hfile => ?_, fun hdir => ?_⟩
  · have hother : ∀ c', ¬ FileOf fs dir page x c' := by
      intro c' ⟨target, htarget, hplace, _⟩
      rw [(pagePath_eq_ok_iff.1 htarget).2] at hplace
      exact hne hplace
    have hkept := (hedits.node?_file_iff hother).2 hfile
    rw [hfiled.way page List.mem_cons_self x hx hne] at hkept
    cases hkept
  · have hkept := hedits.keeps_directories _ hdir
    rw [hfiled.file page List.mem_cons_self] at hkept
    cases hkept

/-- What a task that succeeds tells and does. -/
theorem writePage_eq_ok (h : Ready dir fs) {written : Bool}
    (hwrite : Publish.writePage dir fs page = (fs', .ok written)) :
    Fits dir page ∧ Room fs (filePlace fs dir page) ∧ written = (!held fs dir page) ∧
      Ready dir fs' ∧ Filed dir [page] fs fs' := by
  obtain ⟨hfits, hwritten, hfiled⟩ := h.filed_writePage hwrite
  have hready := h.writePage page
  have hroom := @room_of_filed dir fs page h
  rw [hwrite] at hready hroom
  exact ⟨hfits, hroom hfiled, hwritten, hready, hfiled⟩

/-- The directories above a page's file can be made. -/
theorem makeDirectories_eq_none (h : Ready dir fs) (hfits : Fits dir page)
    (hroom : Room fs (filePlace fs dir page)) :
    (fs.makeDirectories (Path.directory (Path.join dir page.path))).2 = none := by
  have hne := h.components_ne_nil hfits.isLocal hroom.free
  obtain ⟨hcomponents, habsolute⟩ := @Path.components_directory_join dir _ hfits.isLocal
  rw [List.dropLast_append_of_ne_nil hne] at hcomponents
  have hstart : fs.startOf (Path.directory (Path.join dir page.path)) = fs.startOf dir :=
    startOf_congr rfl habsolute
  have husable := hfits.usable.directory_join hfits.isLocal
  obtain ⟨y, hy⟩ := Path.exists_clean_directory (Path.join dir page.path)
  have hclean := Path.components_clean y
  rw [← hy, hcomponents] at hclean
  rcases namesOf_clean y with hnames | ⟨hnil, hdot⟩
  · rw [← hy, ← hclean] at hnames
    apply FileSystem.makeDirectories_eq_none husable hnames
    · rw [hstart]
      exact h.directory
    · intro n hn
      have hmem := List.mem_of_mem_dropLast hn
      exact ⟨mem_components_of_isLocal hfits.isLocal n hmem, hfits.short n hmem⟩
    · -- what is on the way is above the file
      intro pre hpre
      rw [hstart, ← placeOf_eq_components]
      apply hroom.way
      · rw [filePlace_eq fs hfits.isLocal, List.prefix_append_right_inj]
        exact hpre.trans (List.dropLast_prefix _)
      · intro heq
        rw [filePlace_eq fs hfits.isLocal] at heq
        have hlength := hpre.length_le
        rw [List.append_cancel_left heq, List.length_dropLast] at hlength
        have hpos := List.length_pos_iff.2 hne
        omega
  · -- the directory is the start, which is there
    rw [hnil] at hclean
    have hleads := h.directory
    rw [(List.append_eq_nil_iff.1 hclean).1] at hleads
    have hnames : namesOf (Path.directory (Path.join dir page.path)) = [Path.here] ++ [] := by
      rw [hy, hdot]
      rfl
    have hthere : fs.node? (fs.startOf dir) = some .directory := hleads.2
    have hhere : fs.Leads (fs.startOf dir) [Path.here] := ⟨⟨hthere, by decide, trivial⟩, hthere⟩
    apply FileSystem.makeDirectories_eq_none husable hnames
    · rwa [hstart]
    · intro n hn
      cases hn
    · intro pre hpre c
      rw [List.prefix_nil.1 hpre, List.append_nil, hstart]
      simp [hthere]

/-- A page that fits can be written where there is room for its file. -/
theorem exists_writePage (h : Ready dir fs) (hfits : Fits dir page)
    (hroom : Room fs (filePlace fs dir page)) :
    ∃ fs' written, Publish.writePage dir fs page = (fs', .ok written) := by
  have htarget : pagePath dir page.path = .ok (Path.join dir page.path) :=
    pagePath_eq_ok_iff.2 ⟨hfits.isLocal, rfl⟩
  unfold Publish.writePage
  rw [htarget]
  dsimp only
  by_cases hheld : fs.holds (Path.join dir page.path) page.content = true
  · exact ⟨fs, false, by rw [if_pos hheld]⟩
  rw [if_neg hheld]
  have hnone := h.makeDirectories_eq_none hfits hroom
  have hedits := makeDirectories_edits (fun _ _ => False) fs (Path.directory (Path.join dir page.path))
  have hkept := h.node?_makeDirectories hfits.isLocal fun hbelow => hbelow.2 rfl
  have hstat := stat_makeDirectories hnone
  rcases hmade : fs.makeDirectories (Path.directory (Path.join dir page.path)) with ⟨fs₁, failure⟩
  rw [hmade] at hnone hedits hkept hstat
  dsimp only at hnone hedits hkept hstat ⊢
  rw [hnone]
  dsimp only
  have hlocate := locate_join_of_stat hfits.isLocal (h.components_ne_nil hfits.isLocal hroom.free)
    hfits.usable hfits.short hstat
  have hfree : fs₁.node? (fs₁.placeOf (Path.join dir page.path)) ≠ some .directory := by
    rw [hedits.placeOf_eq]
    exact fun hdir => hroom.free (hkept ▸ hdir)
  rw [write_of_locate page.content hlocate hfree]
  exact ⟨_, true, rfl⟩

end Ready

/-! ## §3 All tasks -/

/-- Two pages neither of whose files is at or above the place of the other's. -/
def Apart (fs : FileSystem) (dir : Bytes) (p q : Page) : Prop :=
  ¬ filePlace fs dir p <+: filePlace fs dir q ∧ ¬ filePlace fs dir q <+: filePlace fs dir p

theorem Apart.symm {fs : FileSystem} {dir : Bytes} {p q : Page} (h : Apart fs dir p q) :
    Apart fs dir q p := ⟨h.2, h.1⟩

/-- One more page, written or not. -/
def Stats.count (stats : Stats) (written : Bool) : Stats :=
  if written then { stats with written := stats.written + 1 }
  else { stats with unchanged := stats.unchanged + 1 }

/-- Writing pages in turn succeeds with a file system and counts. -/
def Writes (dir : Bytes) (fs : FileSystem) (stats : Stats) (pages : List Page) (fs' : FileSystem)
    (stats' : Stats) : Prop :=
  ∃ records, writePages dir fs stats pages = (fs', records, .ok stats')

section Tasks

variable {dir : Bytes} {fs fs' fs₁ : FileSystem} {stats stats' : Stats} {page p q : Page}
variable {pages rest : List Page}

theorem writes_nil : Writes dir fs stats [] fs' stats' ↔ fs' = fs ∧ stats' = stats := by
  simp [Writes, writePages, eq_comm]

theorem writes_cons : Writes dir fs stats (page :: rest) fs' stats' ↔
    ∃ fs₁ written, writePage dir fs page = (fs₁, .ok written) ∧
      Writes dir fs₁ (stats.count written) rest fs' stats' := by
  unfold Writes
  rw [writePages]
  rcases writePage dir fs page with ⟨fs₁, e | written⟩
  · simp
  · cases written with
    | false => simp [Stats.count]
    | true =>
      rcases hrest : writePages dir fs₁ { stats with written := stats.written + 1 } rest with
        ⟨fs₂, records, result⟩
      simp [Stats.count, hrest]

theorem Filed.single_other (h : Filed dir [page] fs fs') {x : Place}
    (hx : ¬ x <+: filePlace fs dir page) : fs'.node? x = fs.node? x :=
  h.rest x (List.forall_mem_singleton.2 hx)

/-- After one task there is room for another page exactly when there was before and the pages are
    apart. -/
theorem Filed.room_iff (h : Filed dir [p] fs fs') (hroom : Room fs (filePlace fs dir p))
    (hne : filePlace fs dir p ≠ filePlace fs dir q) :
    Room fs' (filePlace fs dir q) ↔ Room fs (filePlace fs dir q) ∧ Apart fs dir p q := by
  have hfile := h.file p List.mem_cons_self
  have hway := h.way p List.mem_cons_self
  constructor
  · intro hafter
    have hdown : ¬ filePlace fs dir p <+: filePlace fs dir q :=
      fun hpq => hafter.way _ hpq hne _ hfile
    have hup : ¬ filePlace fs dir q <+: filePlace fs dir p :=
      fun hqp => hafter.free (hway _ hqp (Ne.symm hne))
    refine ⟨⟨fun x hx hxq c hnode => ?_, fun hnode => ?_⟩, hdown, hup⟩
    · by_cases hxp : x <+: filePlace fs dir p
      · -- no file was above the first page's file
        have hxne : x ≠ filePlace fs dir p := by
          rintro rfl
          exact hdown hx
        exact hroom.way x hxp hxne c hnode
      · exact hafter.way x hx hxq c (by rw [h.single_other hxp, hnode])
    · exact hafter.free (by rw [h.single_other hup, hnode])
  · intro ⟨hbefore, hdown, hup⟩
    refine ⟨fun x hx hxq c hnode => ?_, fun hnode => ?_⟩
    · by_cases hxp : x <+: filePlace fs dir p
      · have hxne : x ≠ filePlace fs dir p := by
          rintro rfl
          exact hdown hx
        rw [hway x hxp hxne] at hnode
        cases hnode
      · rw [h.single_other hxp] at hnode
        exact hbefore.way x hx hxq c hnode
    · rw [h.single_other hup] at hnode
      exact hbefore.free hnode

theorem Filed.cons (h : Filed dir [page] fs fs₁) (hrest : Filed dir rest fs₁ fs')
    (hapart : ∀ q ∈ rest, Apart fs dir page q) : Filed dir (page :: rest) fs fs' := by
  have hplace := filePlace_congr h.workingDirectory dir
  have hfile := h.file page List.mem_cons_self
  have hway := h.way page List.mem_cons_self
  refine ⟨hrest.workingDirectory.trans h.workingDirectory, ?_, ?_, ?_⟩
  · refine List.forall_mem_cons.2 ⟨?_, fun q hq => ?_⟩
    · rw [hrest.rest _ fun q hq => by rw [hplace]; exact (hapart q hq).1, hfile]
    · rw [← hplace]
      exact hrest.file q hq
  · refine List.forall_mem_cons.2 ⟨fun x hx hne => ?_, fun q hq => ?_⟩
    · by_cases habove : ∃ q ∈ rest, x <+: filePlace fs dir q
      · obtain ⟨q, hq, hxq⟩ := habove
        rw [← hplace] at hxq
        refine hrest.way q hq x hxq ?_
        rintro rfl
        rw [hplace] at hx
        exact (hapart q hq).2 hx
      · rw [hrest.rest x fun q hq hxq => habove ⟨q, hq, by rwa [← hplace]⟩, hway x hx hne]
    · rw [← hplace]
      exact hrest.way q hq
  · intro x hx
    obtain ⟨hpage, hothers⟩ := List.forall_mem_cons.1 hx
    rw [hrest.rest x fun q hq => by rw [hplace]; exact hothers q hq, h.single_other hpage]

/-- A task does not change whether another page is held by its file. -/
theorem Filed.held_eq (h : Filed dir [p] fs fs') (hready : Ready dir fs) (hready' : Ready dir fs')
    (hlocal : Path.isLocal q.path = true) (hapart : Apart fs dir p q) :
    held fs' dir q = held fs dir q := by
  rw [Bool.eq_iff_iff, held_iff, held_iff, hready.read_iff hlocal, hready'.read_iff hlocal,
    filePlace_congr h.workingDirectory, h.single_other hapart.2]

/-- What tasks that all succeed tell and do. -/
theorem Ready.writes (h : Ready dir fs)
    (hdistinct : pages.Pairwise fun p q => filePlace fs dir p ≠ filePlace fs dir q)
    (hwrites : Writes dir fs stats pages fs' stats') :
    (∀ p ∈ pages, Fits dir p ∧ Room fs (filePlace fs dir p)) ∧ pages.Pairwise (Apart fs dir) ∧
      Ready dir fs' ∧ Filed dir pages fs fs' ∧
      stats'.written = stats.written + pages.countP (fun p => !held fs dir p) ∧
      stats'.unchanged = stats.unchanged + pages.countP (held fs dir) := by
  induction pages generalizing fs stats with
  | nil =>
    obtain ⟨rfl, rfl⟩ := writes_nil.1 hwrites
    refine ⟨by simp, List.Pairwise.nil, h, ⟨rfl, by simp, by simp, fun _ _ => rfl⟩, by simp, by simp⟩
  | cons page rest ih =>
    obtain ⟨fs₁, written, hpage, hrest⟩ := writes_cons.1 hwrites
    obtain ⟨hfits, hroom, hwritten, hready₁, hfiled⟩ := h.writePage_eq_ok hpage
    have hplace := filePlace_congr hfiled.workingDirectory dir
    obtain ⟨hne, hdistinct⟩ := List.pairwise_cons.1 hdistinct
    obtain ⟨hall, hapart, hready', hfiled', hstats, hstats'⟩ :=
      ih hready₁ (by simpa only [hplace] using hdistinct) hrest
    -- room after the first task is room before it, apart from its page
    have hothers : ∀ q ∈ rest, Room fs (filePlace fs dir q) ∧ Apart fs dir page q := by
      intro q hq
      rw [← hfiled.room_iff hroom (hne q hq), ← hplace]
      exact (hall q hq).2
    have hheld : ∀ q ∈ rest, held fs₁ dir q = held fs dir q := fun q hq =>
      hfiled.held_eq h hready₁ (hall q hq).1.isLocal (hothers q hq).2
    have hcount : rest.countP (held fs₁ dir) = rest.countP (held fs dir) :=
      List.countP_congr fun q hq => by rw [hheld q hq]
    have hcount' : rest.countP (fun p => !held fs₁ dir p) = rest.countP (fun p => !held fs dir p) :=
      List.countP_congr fun q hq => by rw [hheld q hq]
    refine ⟨List.forall_mem_cons.2 ⟨⟨hfits, hroom⟩, fun q hq => ⟨(hall q hq).1, (hothers q hq).1⟩⟩,
      List.pairwise_cons.2 ⟨fun q hq => (hothers q hq).2, ?_⟩, hready',
      hfiled.cons hfiled' fun q hq => (hothers q hq).2, ?_, ?_⟩
    · unfold Apart at hapart ⊢
      simpa only [hplace] using hapart
    · rw [hstats, hcount', List.countP_cons, hwritten]
      cases held fs dir page with
      | false => simp only [Stats.count]; simp; omega
      | true => simp [Stats.count]
    · rw [hstats', hcount, List.countP_cons, hwritten]
      cases held fs dir page with
      | false => simp [Stats.count]
      | true => simp only [Stats.count]; simp; omega

/-- Tasks succeed when each could start and their pages are apart. -/
theorem Ready.exists_writes (h : Ready dir fs)
    (hall : ∀ p ∈ pages, Fits dir p ∧ Room fs (filePlace fs dir p))
    (hapart : pages.Pairwise (Apart fs dir)) : ∃ fs' stats', Writes dir fs stats pages fs' stats' := by
  induction pages generalizing fs stats with
  | nil => exact ⟨fs, stats, writes_nil.2 ⟨rfl, rfl⟩⟩
  | cons page rest ih =>
    obtain ⟨⟨hfits, hroom⟩, hall⟩ := List.forall_mem_cons.1 hall
    obtain ⟨hpage, hapart⟩ := List.pairwise_cons.1 hapart
    obtain ⟨fs₁, written, hwrite⟩ := h.exists_writePage hfits hroom
    obtain ⟨-, -, -, hready₁, hfiled⟩ := h.writePage_eq_ok hwrite
    have hplace := filePlace_congr hfiled.workingDirectory dir
    -- the first task leaves room for the others
    have hothers : ∀ q ∈ rest, Fits dir q ∧ Room fs₁ (filePlace fs₁ dir q) := by
      intro q hq
      have hne : filePlace fs dir page ≠ filePlace fs dir q := by
        intro heq
        exact (hpage q hq).1 (by rw [heq])
      refine ⟨(hall q hq).1, ?_⟩
      rw [hplace, hfiled.room_iff hroom hne]
      exact ⟨(hall q hq).2, hpage q hq⟩
    have hapart₁ : rest.Pairwise (Apart fs₁ dir) := by
      unfold Apart at hapart ⊢
      simpa only [hplace] using hapart
    obtain ⟨fs', stats', hwrites⟩ := @ih fs₁ (stats.count written) hready₁ hothers hapart₁
    exact ⟨fs', stats', writes_cons.2 ⟨fs₁, written, hwrite, hwrites⟩⟩

/-- What the pages leave does not depend on their order. -/
theorem Filed.same {order : List Page} {fs'' : FileSystem} (h : Filed dir pages fs fs')
    (h' : Filed dir order fs fs'') (horder : order.Perm pages) : Same fs' fs'' := by
  refine ⟨h'.workingDirectory.trans h.workingDirectory.symm, fun x => ?_⟩
  by_cases hx : ∃ p ∈ pages, x <+: filePlace fs dir p
  · obtain ⟨p, hp, hxp⟩ := hx
    have hp' := horder.mem_iff.2 hp
    by_cases heq : x = filePlace fs dir p
    · rw [heq, h.file p hp, h'.file p hp']
    · rw [h.way p hp x hxp heq, h'.way p hp' x hxp heq]
  · rw [h.rest x fun p hp hxp => hx ⟨p, hp, hxp⟩,
      h'.rest x fun p hp hxp => hx ⟨p, horder.mem_iff.1 hp, hxp⟩]

end Tasks

/-! ## §4 Writing a site -/

/-- No two pages belong to one path. -/
def DistinctPaths (dir : Bytes) (pages : List Page) : Prop :=
  pages.Pairwise fun p q =>
    ∀ target, pagePath dir p.path = .ok target → pagePath dir q.path ≠ .ok target

/-- Files with different paths are at different places. -/
theorem DistinctPaths.filePlace_ne {dir : Bytes} {pages : List Page} (h : DistinctPaths dir pages)
    (hlocal : ∀ p ∈ pages, Path.isLocal p.path = true) (fs : FileSystem) :
    pages.Pairwise fun p q => filePlace fs dir p ≠ filePlace fs dir q := by
  refine List.Pairwise.imp_of_mem (fun {p q} hp hq hpq heq => ?_) h
  rw [filePlace_eq fs (hlocal p hp), filePlace_eq fs (hlocal q hq)] at heq
  have hjoin := @Path.join_congr dir _ _ (hlocal p hp) (hlocal q hq) (List.append_cancel_left heq)
  exact hpq _ (pagePath_eq_ok_iff.2 ⟨hlocal p hp, rfl⟩)
    (pagePath_eq_ok_iff.2 ⟨hlocal q hq, hjoin⟩)

section Site

variable {cancelled : Bool} {dir : Bytes} {pages : List Page} {fs fs' : FileSystem} {stats : Stats}

/-- A site is written when no page is refused, the output directory can be made, the run is not
    cancelled, and all tasks succeed. -/
theorem write_eq_ok_iff :
    (write cancelled dir pages fs).1 = fs' ∧ (write cancelled dir pages fs).2.2 = .ok stats ↔
      (∀ p ∈ pages, Path.isLocal p.path = true) ∧ (fs.makeDirectories dir).2 = none ∧
        (cancelled = true → pages = []) ∧
        Writes dir (fs.makeDirectories dir).1 ⟨0, 0⟩ pages fs' stats := by
  unfold write
  cases hunsafe : firstUnsafe? pages with
  | some page =>
    have hpage : Path.isLocal page.path = false := by simpa using List.find?_some hunsafe
    have hmem := List.mem_of_find?_eq_some hunsafe
    simp only [reduceCtorEq, and_false, false_iff]
    intro hall
    rw [hall.1 page hmem] at hpage
    cases hpage
  | none =>
    have hlocal : ∀ p ∈ pages, Path.isLocal p.path = true := by
      simpa [firstUnsafe?] using hunsafe
    rcases hmade : fs.makeDirectories dir with ⟨fs₁, failure⟩
    cases failure with
    | some cause => simp
    | none =>
      by_cases hcancelled : (cancelled && !pages.isEmpty) = true
      · have hstopped : ¬ (cancelled = true → pages = []) := by simpa using hcancelled
        simp [hcancelled, hstopped]
      · have hgoes : cancelled = true → pages = [] := by simpa using hcancelled
        rcases hpages : writePages dir fs₁ ⟨0, 0⟩ pages with ⟨fs₂, records, e | stats'⟩
        · simp [hcancelled, hpages, Writes]
        · rw [and_iff_right hlocal, and_iff_right rfl, and_iff_right hgoes]
          simp [hcancelled, hpages, Writes]

/-- The tasks of a written site, after the output directory was made. -/
theorem writes_of_write (h : (write cancelled dir pages fs).2.2 = .ok stats) :
    (∀ p ∈ pages, Path.isLocal p.path = true) ∧ (fs.makeDirectories dir).2 = none ∧
      (cancelled = true → pages = []) ∧
      Writes dir (fs.makeDirectories dir).1 ⟨0, 0⟩ pages (write cancelled dir pages fs).1 stats :=
  write_eq_ok_iff.1 ⟨rfl, h⟩

/-- Making the output directory makes a file system ready. -/
theorem ready_makeDirectories (hwf : fs.WellFormed) (hmade : (fs.makeDirectories dir).2 = none) :
    Ready dir (fs.makeDirectories dir).1 :=
  ⟨hwf.makeDirectories dir, (stat_eq_directory_iff.1 (stat_makeDirectories hmade)).2.components⟩

theorem held_makeDirectories (hwf : fs.WellFormed) (hmade : (fs.makeDirectories dir).2 = none)
    {page : Page} (hlocal : Path.isLocal page.path = true) :
    held (fs.makeDirectories dir).1 dir page = held fs dir page := by
  rw [Bool.eq_iff_iff, held_iff, held_iff, read_makeDirectories hwf hlocal hmade]

/-- What writing a site tells and does, in terms of the file system before. -/
theorem written_site (hwf : fs.WellFormed) (hdistinct : DistinctPaths dir pages)
    (h : (write cancelled dir pages fs).2.2 = .ok stats) :
    (∀ p ∈ pages, Fits dir p) ∧ Ready dir (write cancelled dir pages fs).1 ∧
      Filed dir pages (fs.makeDirectories dir).1 (write cancelled dir pages fs).1 ∧
      stats = ⟨pages.countP fun p => !held fs dir p, pages.countP (held fs dir)⟩ := by
  obtain ⟨hlocal, hmade, -, hwrites⟩ := writes_of_write h
  obtain ⟨hall, -, hready, hfiled, hwritten, hunchanged⟩ :=
    (ready_makeDirectories hwf hmade).writes (hdistinct.filePlace_ne hlocal _) hwrites
  have hheld : ∀ p ∈ pages, held (fs.makeDirectories dir).1 dir p = held fs dir p :=
    fun p hp => held_makeDirectories hwf hmade (hlocal p hp)
  refine ⟨fun p hp => (hall p hp).1, hready, hfiled, ?_⟩
  rw [Nat.zero_add, List.countP_congr fun p hp => by rw [hheld p hp]] at hwritten hunchanged
  rw [← hwritten, ← hunchanged]

/-- Afterwards every page can be read from its file. -/
theorem read_written (hwf : fs.WellFormed) (hdistinct : DistinctPaths dir pages)
    (h : (write cancelled dir pages fs).2.2 = .ok stats) (p : Page) (hp : p ∈ pages) :
    (write cancelled dir pages fs).1.read (Path.join dir p.path) = .ok p.content := by
  obtain ⟨hfits, hready, hfiled, -⟩ := written_site hwf hdistinct h
  rw [hready.read_iff (hfits p hp).isLocal, filePlace_congr hfiled.workingDirectory]
  exact ⟨hfits p hp, hfiled.file p hp⟩

end Site

/-- The order in which pages are written does not matter.  If all tasks succeed in one order, they
    succeed in every order, with the same counts and the same files; every page's file then holds the
    page, every other file is as it was, each page is counted once, and unchanged are the pages that
    their files held before. -/
theorem write_order_independent (cancelled : Bool) (dir : Bytes) {pages order : List Page}
    {fs : FileSystem} {stats : Stats} (hwf : fs.WellFormed) (hdistinct : DistinctPaths dir pages)
    (horder : order.Perm pages) (h : (write cancelled dir pages fs).2.2 = .ok stats) :
    (write cancelled dir order fs).2.2 = .ok stats ∧
    Same (write cancelled dir pages fs).1 (write cancelled dir order fs).1 ∧
    (∀ p ∈ pages, ∃ target, pagePath dir p.path = .ok target ∧
      (write cancelled dir pages fs).1.read target = .ok p.content) ∧
    (∀ x content, fs.node? x = some (.file content) →
      (∀ p ∈ pages, ∀ target, pagePath dir p.path = .ok target → x ≠ fs.placeOf target) →
        (write cancelled dir pages fs).1.node? x = some (.file content)) ∧
    stats.written + stats.unchanged = pages.length ∧
    stats.unchanged = pages.countP fun p => fs.holds (Path.join dir p.path) p.content := by
  obtain ⟨hlocal, hmade, hcancelled, hwrites⟩ := writes_of_write h
  have hready := ready_makeDirectories hwf hmade
  obtain ⟨hall, hapart, -, hfiled, -, -⟩ := hready.writes (hdistinct.filePlace_ne hlocal _) hwrites
  obtain ⟨-, -, -, hstats⟩ := written_site hwf hdistinct h
  -- what makes the tasks succeed says nothing about their order
  obtain ⟨fs', stats', hwrites'⟩ := @Ready.exists_writes dir _ ⟨0, 0⟩ order hready
    (fun p hp => hall p (horder.mem_iff.1 hp)) ((horder.pairwise_iff Apart.symm).2 hapart)
  have hcancelled' : cancelled = true → order = [] := by
    intro hc
    rw [hcancelled hc] at horder
    exact horder.eq_nil
  obtain ⟨-, hstats'⟩ := (@write_eq_ok_iff cancelled dir order fs fs' stats').2
    ⟨fun p hp => hlocal p (horder.mem_iff.1 hp), hmade, hcancelled', hwrites'⟩
  have hdistinct' : DistinctPaths dir order := by
    refine (horder.pairwise_iff ?_).2 hdistinct
    intro p q hpq target hq hp
    exact hpq target hp hq
  obtain ⟨-, -, hfiled', hcounts⟩ := written_site hwf hdistinct' hstats'
  refine ⟨?_, hfiled.same hfiled' horder, ?_, ?_, ?_, ?_⟩
  · rw [hstats', hcounts, hstats, horder.countP_eq, horder.countP_eq]
  · intro p hp
    exact ⟨_, pagePath_eq_ok_iff.2 ⟨hlocal p hp, rfl⟩, read_written hwf hdistinct h p hp⟩
  · intro x content hfile hother
    have hedits := makeDirectories_edits (fun _ _ => False) fs dir
    have hkept := (hedits.node?_file_iff fun _ => id).2 hfile
    rw [hfiled.rest, hkept]
    intro p hp hx
    have hne : x ≠ filePlace (fs.makeDirectories dir).1 dir p := by
      rw [filePlace_congr hedits.workingDirectory]
      exact hother p hp _ (pagePath_eq_ok_iff.2 ⟨hlocal p hp, rfl⟩)
    exact (hall p hp).2.way x hx hne content hkept
  · rw [hstats, Nat.add_comm, List.length_eq_countP_add_countP (held fs dir)]
    simp
  · rw [hstats]
    rfl

theorem distinctPaths_of_nodup {dir : Bytes} {pages : List Page}
    (h : (pages.map fun p => Path.join dir p.path).Nodup) : DistinctPaths dir pages := by
  refine (List.pairwise_map.1 h).imp fun {p q} hne target hp hq => ?_
  exact hne ((pagePath_eq_ok_iff.1 hp).2.symm.trans (pagePath_eq_ok_iff.1 hq).2)

/-- Three pages in two directories, of which one is held already, and a file that is no page. -/
theorem pages_written_in_reverse :
    let fs : FileSystem := ⟨[([bytes "w", bytes "out", bytes "sub", bytes "p.html"], .file (bytes "x")),
      ([bytes "w", bytes "out", bytes "notes"], .file (bytes "n")),
      ([bytes "w", bytes "out", bytes "sub"], .directory), ([bytes "w", bytes "out"], .directory),
      ([bytes "w"], .directory)], [bytes "w"]⟩
    let pages : List Page := [⟨bytes "sub/p.html", bytes "x"⟩, ⟨bytes "sub/deep/q.html", bytes "y"⟩,
      ⟨bytes "index.html", bytes "i"⟩]
    fs.WellFormed ∧ DistinctPaths (bytes "out") pages ∧
      (write false (bytes "out") pages fs).2.2 = .ok ⟨2, 1⟩ ∧
      (write false (bytes "out") pages.reverse fs).2.2 = .ok ⟨2, 1⟩ ∧
      Same (write false (bytes "out") pages fs).1 (write false (bytes "out") pages.reverse fs).1 ∧
      (write false (bytes "out") pages fs).1.node? [bytes "w", bytes "out", bytes "notes"] =
        some (.file (bytes "n")) := by
  intro fs pages
  have hwf : fs.WellFormed := by decide
  have hdistinct : DistinctPaths (bytes "out") pages := distinctPaths_of_nodup (by decide)
  have h : (write false (bytes "out") pages fs).2.2 = .ok ⟨2, 1⟩ := by decide
  obtain ⟨hstats, hsame, -, hother, -, -⟩ :=
    write_order_independent false (bytes "out") hwf hdistinct (List.reverse_perm pages) h
  refine ⟨hwf, hdistinct, h, hstats, hsame, hother _ _ (by decide) ?_⟩
  intro p hp target htarget
  rw [(pagePath_eq_ok_iff.1 htarget).2]
  clear htarget
  revert p
  decide

end Publish

end DocPages
