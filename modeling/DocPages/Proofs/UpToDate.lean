import DocPages.Proofs.PageTasks

/-!
# Pages That Are up to Date

Three parts of publishing ask whether a page's file is as it should be.  Writing leaves a page alone
when its file holds the page, whatever else may be wrong with the file; comparing gives a diff for a
page whose file is missing or different, and an error for a file that cannot be read for another
reason; checking fails unless there are no diffs.  They agree: a page is up to date when its file can
be read and holds the bytes of the page.

## Main results

- `Publish.pageDiff?_eq_none_iff`, `Publish.diffs_eq_nil_iff`: when there is nothing to show
- `Publish.length_diffs`: there is one diff for each page that is not held
- `Publish.write_of_held`: what is up to date is not written again
- `Publish.write_diff_check_agree`: writing, comparing and checking agree
-/

namespace DocPages

theorem FileSystem.makeDirectories_of_stat {fs : FileSystem} {path : Bytes}
    (h : fs.stat path = .ok .directory) : fs.makeDirectories path = (fs, none) := by
  rw [makeDirectories, makeDirectoriesWith, h]

namespace Publish

open FileSystem

section Comparing

variable {dir : Bytes} {fs : FileSystem} {page : Page} {pages : List Page}

/-! ## §1 Diffs -/

/-- A page has no diff when its file holds the page. -/
theorem pageDiff?_eq_none_iff :
    pageDiff? dir fs page = .ok none ↔
      ∃ target, pagePath dir page.path = .ok target ∧ fs.read target = .ok page.content := by
  unfold pageDiff?
  cases htarget : pagePath dir page.path with
  | error e => simp
  | ok target =>
    cases hread : fs.read target with
    | ok old => simp [hread]
    | error cause =>
      by_cases hmissing : cause.fault = .notExist
      · simp [hread, hmissing]
      · simp [hread, hmissing]

/-- A page has one diff at most, and has one when its file does not hold it. -/
theorem length_pageDiff? {found : Option Bytes} (h : pageDiff? dir fs page = .ok found) :
    found.toList.length = if held fs dir page then 0 else 1 := by
  have hlocal : Path.isLocal page.path = true := by
    cases hpath : Path.isLocal page.path with
    | true => rfl
    | false => simp [pageDiff?, pagePath, hpath] at h
  have hnone : found = none ↔ held fs dir page = true := by
    have hiff := @pageDiff?_eq_none_iff dir fs page
    simp only [h, Except.ok.injEq, pagePath_eq_ok_iff, hlocal, true_and, exists_eq_left] at hiff
    rw [hiff, held_iff]
  cases found with
  | none => simp [hnone.1 rfl]
  | some text =>
    have hheld : held fs dir page ≠ true := fun hheld => by simpa using hnone.2 hheld
    simp [hheld]

theorem diffs_cons_eq_ok_iff {found : List Bytes} :
    diffs dir fs (page :: pages) = .ok found ↔
      ∃ first more, pageDiff? dir fs page = .ok first ∧ diffs dir fs pages = .ok more ∧
        found = first.toList ++ more := by
  rw [diffs]
  cases pageDiff? dir fs page with
  | error e => simp
  | ok first =>
    cases diffs dir fs pages with
    | error e => simp
    | ok more => simp [eq_comm]

/-- There is one diff for each page that its file does not hold. -/
theorem length_diffs {found : List Bytes} (h : diffs dir fs pages = .ok found) :
    found.length = pages.countP fun p => !held fs dir p := by
  induction pages generalizing found with
  | nil =>
    obtain rfl : [] = found := Except.ok.inj h
    rfl
  | cons page pages ih =>
    obtain ⟨first, more, hfirst, hmore, rfl⟩ := diffs_cons_eq_ok_iff.1 h
    rw [List.length_append, length_pageDiff? hfirst, ih hmore, List.countP_cons]
    cases held fs dir page with
    | false => simp [Nat.add_comm]
    | true => simp

/-- There are no diffs when every page is held by its file. -/
theorem diffs_eq_nil_iff :
    diffs dir fs pages = .ok [] ↔
      ∀ p ∈ pages, ∃ target, pagePath dir p.path = .ok target ∧ fs.read target = .ok p.content := by
  induction pages with
  | nil => simp [diffs]
  | cons page pages ih =>
    rw [List.forall_mem_cons, ← pageDiff?_eq_none_iff, ← ih, diffs_cons_eq_ok_iff]
    constructor
    · intro ⟨first, more, hfirst, hmore, hnil⟩
      obtain ⟨hnone, rfl⟩ := List.append_eq_nil_iff.1 hnil.symm
      rw [Option.toList_eq_nil_iff.1 hnone] at hfirst
      exact ⟨hfirst, hmore⟩
    · intro ⟨hfirst, hmore⟩
      exact ⟨none, [], hfirst, hmore, rfl⟩

theorem check_eq_ok_iff : check dir fs pages = .ok () ↔ diffs dir fs pages = .ok [] := by
  unfold check
  rcases diffs dir fs pages with e | _ | ⟨text, more⟩ <;> simp

theorem check_of_diffs {found : List Bytes} (h : diffs dir fs pages = .ok found) (hne : found ≠ []) :
    check dir fs pages = .error (.outOfDate found) := by
  unfold check
  rw [h]
  cases found with
  | nil => exact absurd rfl hne
  | cons text more => rfl

/-! ## §2 Writing again -/

theorem writePage_of_held (hlocal : Path.isLocal page.path = true) (hheld : held fs dir page = true) :
    writePage dir fs page = (fs, .ok false) := by
  have htarget : pagePath dir page.path = .ok (Path.join dir page.path) :=
    pagePath_eq_ok_iff.2 ⟨hlocal, rfl⟩
  rw [held] at hheld
  rw [writePage, htarget]
  exact if_pos hheld

/-- Tasks whose pages are all held change nothing. -/
theorem writes_of_held (hall : ∀ p ∈ pages, Path.isLocal p.path = true ∧ held fs dir p = true)
    (stats : Stats) :
    Writes dir fs stats pages fs { stats with unchanged := stats.unchanged + pages.length } := by
  induction pages generalizing stats with
  | nil => exact writes_nil.2 ⟨rfl, rfl⟩
  | cons page pages ih =>
    obtain ⟨⟨hlocal, hheld⟩, hall⟩ := List.forall_mem_cons.1 hall
    refine writes_cons.2 ⟨fs, false, writePage_of_held hlocal hheld, ?_⟩
    have hrest := ih hall (stats.count false)
    have hcount : stats.unchanged + (page :: pages).length =
        (stats.count false).unchanged + pages.length := by
      simp [Stats.count]
      omega
    rw [hcount]
    exact hrest

/-- A site that is up to date is not written again. -/
theorem write_of_held {cancelled : Bool} (hstat : fs.stat dir = .ok .directory)
    (hcancelled : cancelled = true → pages = [])
    (hall : ∀ p ∈ pages, Path.isLocal p.path = true ∧ held fs dir p = true) :
    (write cancelled dir pages fs).1 = fs ∧
      (write cancelled dir pages fs).2.2 = .ok ⟨0, pages.length⟩ := by
  have hmade := makeDirectories_of_stat hstat
  refine write_eq_ok_iff.2 ⟨fun p hp => (hall p hp).1, by rw [hmade], hcancelled, ?_⟩
  rw [hmade]
  have hwrites := writes_of_held hall ⟨0, 0⟩
  rwa [Nat.zero_add] at hwrites

end Comparing

/-! ## §3 After writing -/

section Written

variable {cancelled : Bool} {dir : Bytes} {pages : List Page} {fs : FileSystem} {stats : Stats}

/-- The path of the output directory, as it is written, leads to a directory afterwards. -/
theorem stat_directory_written (h : (write cancelled dir pages fs).2.2 = .ok stats) :
    (write cancelled dir pages fs).1.stat dir = .ok .directory := by
  obtain ⟨-, hmade, -, records, hwrites⟩ := writes_of_write h
  obtain ⟨husable, hleads⟩ := stat_eq_directory_iff.1 (stat_makeDirectories hmade)
  have hedits := writePages_edits hleads.components ⟨0, 0⟩ pages
  rw [hwrites] at hedits
  refine stat_eq_directory_iff.2 ⟨husable, ?_⟩
  rw [hedits.startOf_eq]
  exact hleads.mono hedits.keeps_directories

theorem held_written (hwf : fs.WellFormed) (hdistinct : DistinctPaths dir pages)
    (h : (write cancelled dir pages fs).2.2 = .ok stats) (p : Page) (hp : p ∈ pages) :
    Path.isLocal p.path = true ∧ held (write cancelled dir pages fs).1 dir p = true :=
  ⟨(writes_of_write h).1 p hp, held_iff.2 (read_written hwf hdistinct h p hp)⟩

/-- After a site was written there are no diffs. -/
theorem diffs_written (hwf : fs.WellFormed) (hdistinct : DistinctPaths dir pages)
    (h : (write cancelled dir pages fs).2.2 = .ok stats) :
    diffs dir (write cancelled dir pages fs).1 pages = .ok [] := by
  refine diffs_eq_nil_iff.2 fun p hp => ?_
  exact ⟨_, pagePath_eq_ok_iff.2 ⟨(writes_of_write h).1 p hp, rfl⟩, read_written hwf hdistinct h p hp⟩

/-- After a site was written, writing it again changes nothing. -/
theorem write_written (hwf : fs.WellFormed) (hdistinct : DistinctPaths dir pages)
    (h : (write cancelled dir pages fs).2.2 = .ok stats) :
    (write cancelled dir pages (write cancelled dir pages fs).1).1 =
        (write cancelled dir pages fs).1 ∧
      (write cancelled dir pages (write cancelled dir pages fs).1).2.2 = .ok ⟨0, pages.length⟩ :=
  write_of_held (stat_directory_written h) (writes_of_write h).2.2.1 (held_written hwf hdistinct h)

end Written

/-- Writing, comparing and checking agree.  After a site was written there are no diffs, it passes the
    check, and writing it again changes nothing and counts every page as unchanged; the diffs before
    writing are as many as the pages that are written; the check passes exactly when every page's file
    is there and holds the page, and otherwise, if there are diffs, it fails with them and reports
    their number. -/
theorem write_diff_check_agree (cancelled : Bool) (dir : Bytes) (pages : List Page)
    (fs : FileSystem) :
    (fs.WellFormed → DistinctPaths dir pages →
      ∀ stats, (write cancelled dir pages fs).2.2 = .ok stats →
        (let fs' := (write cancelled dir pages fs).1
        diffs dir fs' pages = .ok [] ∧ check dir fs' pages = .ok () ∧
          (write cancelled dir pages fs').1 = fs' ∧
          (write cancelled dir pages fs').2.2 = .ok ⟨0, pages.length⟩) ∧
        ∀ found, diffs dir fs pages = .ok found → found.length = stats.written) ∧
    (check dir fs pages = .ok () ↔
      ∀ p ∈ pages, ∃ target, pagePath dir p.path = .ok target ∧ fs.read target = .ok p.content) ∧
    ∀ found, diffs dir fs pages = .ok found → found ≠ [] →
      check dir fs pages = .error (.outOfDate found) ∧
        bytes "generated documentation is out of date: " ++ Bytes.decimalNat found.length ++
          bytes " page(s) differ\n" <+: (Error.outOfDate found).message := by
  refine ⟨fun hwf hdistinct stats h => ⟨⟨?_, ?_, ?_⟩, ?_⟩, ?_, ?_⟩
  · exact diffs_written hwf hdistinct h
  · exact check_eq_ok_iff.2 (diffs_written hwf hdistinct h)
  · exact write_written hwf hdistinct h
  · intro found hfound
    rw [length_diffs hfound, (written_site hwf hdistinct h).2.2.2]
  · rw [check_eq_ok_iff, diffs_eq_nil_iff]
  · intro found hfound hne
    exact ⟨check_of_diffs hfound hne, List.prefix_append _ _⟩

/-- An empty page whose file is missing has a diff without lines, which counts; the page next to it is
    held. -/
theorem empty_page_differs :
    let fs : FileSystem := ⟨[([bytes "out", bytes "b"], .file (bytes "y")),
      ([bytes "out"], .directory)], []⟩
    let pages : List Page := [⟨bytes "sub/a", []⟩, ⟨bytes "b", bytes "y"⟩]
    fs.WellFormed ∧ DistinctPaths (bytes "out") pages ∧
      (write false (bytes "out") pages fs).2.2 = .ok ⟨1, 1⟩ ∧
      check (bytes "out") (write false (bytes "out") pages fs).1 pages = .ok () ∧
      (write false (bytes "out") pages (write false (bytes "out") pages fs).1).2.2 =
        .ok ⟨0, pages.length⟩ ∧
      ∃ found, diffs (bytes "out") fs pages = .ok found ∧ found.length = 1 ∧
        check (bytes "out") fs pages = .error (.outOfDate found) := by
  intro fs pages
  have hwf : fs.WellFormed := by decide
  have hdistinct : DistinctPaths (bytes "out") pages := distinctPaths_of_nodup (by decide)
  have h : (write false (bytes "out") pages fs).2.2 = .ok ⟨1, 1⟩ := by decide
  obtain ⟨hafter, -, hbefore⟩ := write_diff_check_agree false (bytes "out") pages fs
  obtain ⟨⟨-, hcheck, -, hagain⟩, hcount⟩ := hafter hwf hdistinct ⟨1, 1⟩ h
  -- the first file is missing, and the second holds its page
  have hread : fs.read (Path.join (bytes "out") (bytes "sub/a")) =
      .error ⟨bytes "open", Path.join (bytes "out") (bytes "sub/a"), .notExist⟩ := by rfl
  have htarget : pagePath (bytes "out") (bytes "sub/a") =
      .ok (Path.join (bytes "out") (bytes "sub/a")) := pagePath_eq_ok_iff.2 ⟨by decide, rfl⟩
  have hfirst : ∃ text, pageDiff? (bytes "out") fs ⟨bytes "sub/a", []⟩ = .ok (some text) := by
    simp [pageDiff?, htarget, hread]
  have hsecond : pageDiff? (bytes "out") fs ⟨bytes "b", bytes "y"⟩ = .ok none :=
    pageDiff?_eq_none_iff.2 ⟨_, pagePath_eq_ok_iff.2 ⟨by decide, rfl⟩, by rfl⟩
  obtain ⟨text, hfirst⟩ := hfirst
  have hdiffs : diffs (bytes "out") fs pages = .ok [text] :=
    diffs_cons_eq_ok_iff.2 ⟨_, [], hfirst, diffs_cons_eq_ok_iff.2 ⟨_, [], hsecond, rfl, rfl⟩, rfl⟩
  exact ⟨hwf, hdistinct, h, hcheck, hagain, [text], hdiffs, hcount _ hdiffs,
    (hbefore _ hdiffs (by simp)).1⟩

end Publish

end DocPages
