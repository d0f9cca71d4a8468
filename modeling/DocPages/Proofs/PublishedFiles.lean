import DocPages.Publish
import DocPages.Proofs.FileEdits

/-!
# Published Files

A site is written below an output directory.  Two rules of cleaning keep it there: a page path is
accepted when its own cleaned names do not climb, and the path of the file is the cleaned text of the
directory and the page path together.  The first rule makes the second append the names of the page to
those of the directory, so every file is at a place below the directory, and so is every directory
that is made for it.

The output directory itself is made along its path as it is written.  A path that enters a directory
and leaves it again by two dots has that directory made too.

## Main results

- `Publish.placeOf_join`: the place of a page's file
- `Publish.writePage_edits`, `Publish.writePages_edits`: what writing pages changes
- `Publish.pages_stay_below_directory`: which pages are refused, and what publishing changes
-/

namespace DocPages

/-! ## §1 Cleaned paths of files and their directories -/

namespace Path

theorem exists_clean_directory (path : Bytes) : ∃ y, directory path = clean y := by
  unfold directory
  split
  · exact ⟨_, rfl⟩
  · exact ⟨[], rfl⟩

theorem exists_clean_join (dir : Bytes) {path : Bytes} (hne : path ≠ []) :
    ∃ y, join dir path = clean y := by
  unfold join
  split
  · exact ⟨path, by simp [hne]⟩
  · exact ⟨_, rfl⟩

/-- The directory of a page's file leads along all its names but the last. -/
theorem components_directory_join {dir path : Bytes} (h : isLocal path = true) :
    components (directory (join dir path)) = (components dir ++ components path).dropLast ∧
      isAbsolute (directory (join dir path)) = isAbsolute dir := by
  obtain ⟨y, hy⟩ := exists_clean_join dir (isLocal_iff.1 h).1
  obtain ⟨hnames, habsolute⟩ := components_directory y
  rw [← components_clean y, ← hy, components_join h] at hnames
  rw [← isAbsolute_clean y, ← hy, isAbsolute_join h] at habsolute
  exact ⟨hnames, habsolute⟩

end Path

namespace Publish

open FileSystem

theorem mem_components_of_isLocal {path : Bytes} (h : Path.isLocal path = true) (n : Bytes)
    (hn : n ∈ Path.components path) : n ≠ Path.here ∧ n ≠ Path.above := by
  refine ⟨(Path.ne_nil_of_mem_components hn).2.1, ?_⟩
  rintro rfl
  exact (Path.isLocal_iff.1 h).2.2 hn

/-- The file of a page is below the output directory, at the cleaned names of the page path. -/
theorem placeOf_join (fs : FileSystem) {dir path : Bytes} (h : Path.isLocal path = true) :
    fs.placeOf (Path.join dir path) = fs.placeOf dir ++ Path.components path := by
  rw [placeOf_eq_components, placeOf_eq_components, startOf_congr rfl (Path.isAbsolute_join h),
    Path.components_join h, Place.along_append]
  exact Place.along_names _ (mem_components_of_isLocal h)

/-- What is missing on the way to a page's file is below the output directory, once that is there, and
    above the file. -/
theorem exists_below_of_onWay {fs : FileSystem} {dir path : Bytes} {x : Place}
    (hdir : fs.Leads (fs.startOf dir) (Path.components dir)) (h : Path.isLocal path = true)
    (hway : fs.OnWay (Path.directory (Path.join dir path)) x) (hfree : fs.node? x = none) :
    ∃ more, more <+: (Path.components path).dropLast ∧ x = fs.placeOf dir ++ more := by
  obtain ⟨hnames, habsolute⟩ := @Path.components_directory_join dir path h
  obtain ⟨pre, n, post, hsplit, hhere, -, rfl⟩ := hway
  rw [startOf_congr rfl habsolute] at hfree ⊢
  -- the names of the directory are cleaned names, up to a single dot that enters nothing
  have hbegin : pre ++ [n] <+: (Path.components dir ++ Path.components path).dropLast := by
    obtain ⟨y, hy⟩ := Path.exists_clean_directory (Path.join dir path)
    rcases namesOf_clean y with hclean | ⟨-, hdot⟩
    · rw [← hy, hsplit, ← Path.components_clean, ← hy, hnames] at hclean
      exact ⟨post, by simpa using hclean⟩
    · have hn : n ∈ pre ++ n :: post := by simp
      rw [← hsplit, hy, hdot] at hn
      exact absurd (List.mem_singleton.1 hn) hhere
  -- up to the output directory nothing is missing
  have hdown : ¬ pre ++ [n] <+: Path.components dir := by
    intro hup
    rw [(hdir.of_prefix hup).2] at hfree
    cases hfree
  by_cases hpath : Path.components path = []
  · rw [hpath, List.append_nil] at hbegin
    exact absurd (hbegin.trans (List.dropLast_prefix _)) hdown
  · rw [List.dropLast_append_of_ne_nil hpath] at hbegin
    rcases List.prefix_or_prefix_of_prefix hbegin (List.prefix_append _ _) with hup | ⟨more, hmore⟩
    · exact absurd hup hdown
    · -- the rest are names of the page, none of which climbs
      have hbelow : more <+: (Path.components path).dropLast := by
        rw [← hmore] at hbegin
        exact (List.prefix_append_right_inj _).1 hbegin
      refine ⟨more, hbelow, ?_⟩
      rw [← hmore, Place.along_append, ← placeOf_eq_components]
      exact Place.along_names _ fun m hm => mem_components_of_isLocal h m
        (List.mem_of_mem_dropLast (hbelow.subset hm))

/-! ## §2 Writing pages -/

theorem pagePath_eq_ok_iff {dir path target : Bytes} :
    pagePath dir path = .ok target ↔ Path.isLocal path = true ∧ target = Path.join dir path := by
  unfold pagePath
  cases Path.isLocal path with
  | true => simp [eq_comm]
  | false => simp

/-- The file of a page, with its content. -/
def FileOf (fs : FileSystem) (dir : Bytes) (page : Page) (x : Place) (content : Bytes) : Prop :=
  ∃ target, pagePath dir page.path = .ok target ∧ x = fs.placeOf target ∧ content = page.content

theorem FileOf.congr {fs fs' : FileSystem} (hfs : fs'.workingDirectory = fs.workingDirectory)
    {dir : Bytes} {page : Page} {x : Place} {content : Bytes} (h : FileOf fs' dir page x content) :
    FileOf fs dir page x content := by
  obtain ⟨target, htarget, hx, hcontent⟩ := h
  exact ⟨target, htarget, placeOf_congr hfs target ▸ hx, hcontent⟩

section Write

variable {dir : Bytes} {fs : FileSystem}

/-- Writing one page makes directories below the output directory and writes the file of the page. -/
theorem writePage_edits (hdir : fs.Leads (fs.startOf dir) (Path.components dir)) (page : Page) :
    Edits (fs.placeOf dir <+: ·) (FileOf fs dir page) fs (writePage dir fs page).1 := by
  unfold writePage
  split
  · exact Edits.refl _ _ _
  · rename_i target htarget
    obtain ⟨hlocal, hjoin⟩ := pagePath_eq_ok_iff.1 htarget
    split
    · exact Edits.refl _ _ _
    · have hmake : Edits (fs.placeOf dir <+: ·) (FileOf fs dir page) fs
          (fs.makeDirectories (Path.directory target)).1 := by
        refine (makeDirectories_edits _ fs _).mono ?_ fun _ _ h => h
        intro x hfree hway
        rw [hjoin] at hway
        obtain ⟨more, -, rfl⟩ := exists_below_of_onWay hdir hlocal hway hfree
        exact List.prefix_append _ _
      split
      · rename_i hmade
        rwa [hmade] at hmake
      · rename_i fs' hmade
        rw [hmade] at hmake
        split
        · exact hmake
        · rename_i fs'' hwrite
          refine hmake.trans ((write_edits hwrite _).mono (fun _ _ h => h) ?_)
          rintro x content ⟨rfl, rfl⟩
          exact ⟨target, htarget, hmake.placeOf_eq target, rfl⟩

/-- Writing pages in turn changes nothing else than writing each of them does. -/
theorem writePages_edits (hdir : fs.Leads (fs.startOf dir) (Path.components dir)) (stats : Stats)
    (pages : List Page) :
    Edits (fs.placeOf dir <+: ·) (fun x content => ∃ page ∈ pages, FileOf fs dir page x content) fs
      (writePages dir fs stats pages).1 := by
  induction pages generalizing fs stats with
  | nil => exact Edits.refl _ _ _
  | cons page rest ih =>
    have hpage : Edits (fs.placeOf dir <+: ·)
        (fun x content => ∃ p ∈ page :: rest, FileOf fs dir p x content) fs
        (writePage dir fs page).1 :=
      (writePage_edits hdir page).mono (fun _ _ h => h) fun x content h =>
        ⟨page, List.mem_cons_self, h⟩
    -- the output directory is still there for the other pages
    have hrest : ∀ stats, Edits (fs.placeOf dir <+: ·)
        (fun x content => ∃ p ∈ page :: rest, FileOf fs dir p x content) (writePage dir fs page).1
        (writePages dir (writePage dir fs page).1 stats rest).1 := by
      intro stats
      have hdir' := hdir.mono hpage.keeps_directories
      rw [← hpage.startOf_eq] at hdir'
      refine (ih hdir' stats).mono (fun x _ h => hpage.placeOf_eq dir ▸ h) ?_
      rintro x content ⟨p, hp, hfile⟩
      exact ⟨p, List.mem_cons_of_mem _ hp, hfile.congr hpage.workingDirectory⟩
    rw [writePages]
    split
    · rename_i hwrite
      rwa [hwrite] at hpage
    · rename_i fs' hwrite
      rw [hwrite] at hpage hrest
      exact hpage.trans (hrest _)
    · rename_i fs' hwrite
      rw [hwrite] at hpage hrest
      exact hpage.trans (hrest _)

end Write

/-! ## §3 Writing a site -/

/-- A page path that publishing refuses. -/
def Refused (dir path : Bytes) : Prop := pagePath dir path = .error (.unsafePath path)

theorem refused_iff {dir path : Bytes} : Refused dir path ↔ Path.isLocal path = false := by
  unfold Refused pagePath
  split <;> simp_all

theorem firstUnsafe?_eq_none_iff {dir : Bytes} {pages : List Page} :
    firstUnsafe? pages = none ↔ ∀ p ∈ pages, ¬ Refused dir p.path := by
  simp [firstUnsafe?, refused_iff]

theorem firstUnsafe?_append {dir : Bytes} {before after : List Page} {page : Page}
    (hbefore : ∀ p ∈ before, ¬ Refused dir p.path) (hpage : Refused dir page.path) :
    firstUnsafe? (before ++ page :: after) = some page := by
  have hnone : before.find? (fun p => !Path.isLocal p.path) = none :=
    firstUnsafe?_eq_none_iff.2 hbefore
  rw [firstUnsafe?, List.find?_append, hnone, Option.none_or,
    List.find?_cons_of_pos (by simp [refused_iff.1 hpage])]

/-- A place that the path of the output directory, as it is written, comes to and goes up from. -/
def LeftByPath (fs : FileSystem) (dir : Bytes) (x : Place) : Prop :=
  ∃ pre post, namesOf dir = pre ++ Path.above :: post ∧ x = (fs.startOf dir).along pre

/-- What is made on the way to the output directory is above it, is the directory itself, or is left
    again by the path. -/
theorem prefix_or_left_of_onWay {fs : FileSystem} {dir : Bytes} {x : Place}
    (h : fs.OnWay dir x) : x <+: fs.placeOf dir ∨ LeftByPath fs dir x := by
  obtain ⟨pre, n, post, hnames, -, -, rfl⟩ := h
  have hsplit : namesOf dir = pre ++ [n] ++ post := by simp [hnames]
  rcases Place.prefix_along_or_left (List.prefix_refl ((fs.startOf dir).along (pre ++ [n]))) post with
    hend | ⟨mid, rest, rfl, hmid⟩
  · left
    rwa [placeOf, hsplit, Place.along_append _ (pre ++ [n])]
  · right
    refine ⟨pre ++ [n] ++ mid, rest, by rw [hsplit]; simp, ?_⟩
    rw [Place.along_append _ (pre ++ [n]) mid, hmid]

/-- Writing a site edits the files of its pages and places around the output directory. -/
theorem write_edits_of_accepted (cancelled : Bool) {dir : Bytes} {pages : List Page}
    (fs : FileSystem) (h : ∀ p ∈ pages, ¬ Refused dir p.path) :
    Edits (fun x => x <+: fs.placeOf dir ∨ fs.placeOf dir <+: x ∨ LeftByPath fs dir x)
      (fun x content => ∃ page ∈ pages, FileOf fs dir page x content) fs
      (write cancelled dir pages fs).1 := by
  have hmake : Edits (fun x => x <+: fs.placeOf dir ∨ fs.placeOf dir <+: x ∨ LeftByPath fs dir x)
      (fun x content => ∃ page ∈ pages, FileOf fs dir page x content) fs
      (fs.makeDirectories dir).1 := by
    refine (makeDirectories_edits _ fs dir).mono (fun x _ hway => ?_) fun _ _ h => h
    exact (prefix_or_left_of_onWay hway).imp_right Or.inr
  unfold write
  rw [firstUnsafe?_eq_none_iff.2 h]
  dsimp only
  split
  · rename_i hmade
    rwa [hmade] at hmake
  · -- the output directory is there now, whichever way its path takes
    rename_i fs' hmade
    have hstat := @stat_makeDirectories fs dir (by rw [hmade])
    rw [hmade] at hmake hstat
    have hdir := (stat_eq_directory_iff.1 hstat).2.components
    split
    · exact hmake
    · have hall := hmake.trans ((writePages_edits hdir ⟨0, 0⟩ pages).mono
        (fun x _ hx => Or.inr (Or.inl (hmake.placeOf_eq dir ▸ hx)))
        fun x content ⟨p, hp, hfile⟩ => ⟨p, hp, hfile.congr hmake.workingDirectory⟩)
      split
      · rename_i hwritten
        rwa [hwritten] at hall
      · rename_i hwritten
        rwa [hwritten] at hall

/-- **Pages stay below the output directory.**  An accepted path appends names that do not climb to
    those of the directory; a path is refused when it is empty, absolute, or climbs when cleaned; a
    refused page stops the run before anything is changed; and otherwise whatever is changed is a file
    at the resolved path of a page, or a new directory that is the output directory, above it, below it,
    or left again by the path of the output directory. -/
theorem pages_stay_below_directory (cancelled : Bool) (dir : Bytes) (pages : List Page)
    (fs : FileSystem) :
    (∀ path target, pagePath dir path = .ok target →
      ∃ names, Path.components target = Path.components dir ++ names ∧ Path.above ∉ names ∧
        Path.isAbsolute target = Path.isAbsolute dir) ∧
    (∀ path, ¬ Refused dir path → ∃ target, pagePath dir path = .ok target) ∧
    (∀ path, Refused dir path ↔
      path = [] ∨ Path.isAbsolute path = true ∨ Path.clean path = Path.above ∨
        Path.above ++ [Path.separator] <+: Path.clean path) ∧
    (∀ before page after, pages = before ++ page :: after →
      (∀ p ∈ before, ¬ Refused dir p.path) → Refused dir page.path →
        write cancelled dir pages fs = (fs, [], .error (.unsafePath page.path))) ∧
    ((∀ p ∈ pages, ¬ Refused dir p.path) →
      ∀ x, (write cancelled dir pages fs).1.node? x ≠ fs.node? x →
        ((∃ content, (write cancelled dir pages fs).1.node? x = some (.file content)) ∧
          ∃ page ∈ pages, ∃ target, pagePath dir page.path = .ok target ∧ x = fs.placeOf target) ∨
        fs.node? x = none ∧ (write cancelled dir pages fs).1.node? x = some .directory ∧
          (x <+: fs.placeOf dir ∨ fs.placeOf dir <+: x ∨ LeftByPath fs dir x)) := by
  refine ⟨?_, ?_, fun path => refused_iff.trans Path.isLocal_eq_false_iff, ?_, ?_⟩
  · intro path target htarget
    obtain ⟨hlocal, rfl⟩ := pagePath_eq_ok_iff.1 htarget
    exact ⟨Path.components path, Path.components_join hlocal, (Path.isLocal_iff.1 hlocal).2.2,
      Path.isAbsolute_join hlocal⟩
  · intro path haccepted
    rw [refused_iff, Bool.not_eq_false] at haccepted
    exact ⟨_, pagePath_eq_ok_iff.2 ⟨haccepted, rfl⟩⟩
  · rintro before page after rfl hbefore hpage
    rw [write, firstUnsafe?_append hbefore hpage]
  · intro haccepted x hchanged
    rcases (write_edits_of_accepted cancelled fs haccepted).node x with
      hkept | ⟨hfree, hafter, hx⟩ | ⟨content, -, hafter, page, hpage, target, htarget, hx, rfl⟩
    · exact absurd hkept hchanged
    · exact Or.inr ⟨hfree, hafter, hx⟩
    · exact Or.inl ⟨⟨_, hafter⟩, page, hpage, target, htarget, hx⟩

/-- From a working directory `w`, a page path that goes down and up again is written below `out`. -/
theorem page_written_below_directory :
    let fs : FileSystem := ⟨[([bytes "w"], .directory)], [bytes "w"]⟩
    let page : Page := ⟨bytes "a/../sub/p.html", bytes "x"⟩
    let result := (write false (bytes "out") [page] fs).1
    let place : Place := [bytes "w", bytes "out", bytes "sub", bytes "p.html"]
    (∀ p ∈ [page], ¬ Refused (bytes "out") p.path) ∧ result.node? place ≠ fs.node? place ∧
      (((∃ content, result.node? place = some (.file content)) ∧
          ∃ p ∈ [page], ∃ target, pagePath (bytes "out") p.path = .ok target ∧
            place = fs.placeOf target) ∨
        fs.node? place = none ∧ result.node? place = some .directory ∧
          (place <+: fs.placeOf (bytes "out") ∨ fs.placeOf (bytes "out") <+: place ∨
            LeftByPath fs (bytes "out") place)) := by
  intro fs page result place
  have haccepted : ∀ p ∈ [page], ¬ Refused (bytes "out") p.path := by
    intro p hp
    rw [List.mem_singleton.1 hp, refused_iff]
    decide
  have hchanged : result.node? place ≠ fs.node? place := by decide
  exact ⟨haccepted, hchanged,
    (pages_stay_below_directory false (bytes "out") [page] fs).2.2.2.2 haccepted place hchanged⟩

/-- The path `a/../b` of an output directory has `a` made, which is neither above nor below `b`. -/
theorem detour_directory_made :
    let fs : FileSystem := ⟨[], []⟩
    let result := (write false (bytes "a/../b") [⟨bytes "p.html", bytes "x"⟩] fs).1
    fs.node? [bytes "a"] = none ∧ result.node? [bytes "a"] = some .directory ∧
      fs.placeOf (bytes "a/../b") = [bytes "b"] ∧
      ¬ [bytes "a"] <+: fs.placeOf (bytes "a/../b") ∧
      ¬ fs.placeOf (bytes "a/../b") <+: [bytes "a"] := by
  decide

end Publish

end DocPages
