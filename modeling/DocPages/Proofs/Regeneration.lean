import DocPages.Proofs.Runs

/-!
# Generating Again

A site that was generated is up to date, and generating it again changes nothing, provided that no page
was written over an input or put among the templates.  What carries this is that a run sees the files
only through its inputs: writing keeps every input that it does not write over, and lists the same
templates, so the second run loads what the first one loaded and renders the same site.

## Main results

- `FileSystem.Edits.fileNames_eq`: the files that a directory lists after edits
- `Generator.load_edits`: edits away from the inputs do not change what a run loads
- `Generator.Clear`: pages that keep away from the inputs
- `Generator.regeneration_changes_nothing`: generating again
-/

namespace DocPages

/-! ## §1 Listing files -/

section Listing

variable {fs fs' : FileSystem} {path : Bytes} {found found' : List (Bytes × Node)}

theorem Templates.mem_fileNames {name : Bytes} :
    name ∈ fileNames found ↔ ∃ content, (name, .file content) ∈ found := by
  unfold fileNames
  rw [List.mem_filterMap]
  constructor
  · intro ⟨⟨n, node⟩, hmem, hname⟩
    cases node with
    | directory => cases hname
    | file content =>
      obtain rfl : n = name := Option.some.inj hname
      exact ⟨content, hmem⟩
  · intro ⟨content, hmem⟩
    exact ⟨_, hmem, rfl⟩

theorem Templates.fileNames_sublist (found : List (Bytes × Node)) :
    (fileNames found).Sublist (found.map Prod.fst) := by
  unfold fileNames
  induction found with
  | nil => exact .slnil
  | cons entry found ih =>
    obtain ⟨name, node⟩ := entry
    cases node with
    | directory => exact ih.cons _
    | file content => exact ih.cons_cons _

namespace FileSystem

variable {made : Place → Prop} {filed : Place → Bytes → Prop}

/-- A directory can be listed after edits. -/
theorem Edits.names (h : Edits made filed fs fs') (hnames : fs.names path = .ok found) :
    ∃ found', fs'.names path = .ok found' := by
  obtain ⟨hlocate, hnode, -⟩ := names_eq_ok_iff.1 hnames
  refine ⟨_, names_eq_ok_iff.2 ⟨h.locate hlocate, ?_, rfl⟩⟩
  rw [h.placeOf_eq]
  exact h.keeps_directories _ hnode

/-- A directory in which no file was written lists the same files after edits. -/
theorem Edits.fileNames_eq (h : Edits made filed fs fs') (hwf : fs.WellFormed)
    (hwf' : fs'.WellFormed) (hfound : fs.names path = .ok found) (hfound' : fs'.names path = .ok found')
    (hfiled : ∀ name c, ¬ filed (fs.placeOf path ++ [name]) c) :
    Templates.fileNames found' = Templates.fileNames found := by
  have hmem : ∀ name, name ∈ Templates.fileNames found' ↔ name ∈ Templates.fileNames found := by
    intro name
    simp only [Templates.mem_fileNames, hwf.mem_names_iff hfound, hwf'.mem_names_iff hfound',
      h.placeOf_eq, h.node?_file_iff (hfiled name)]
  -- both lists are sorted and free of duplicates
  have hperm := (List.perm_ext_iff_of_nodup
    ((Templates.fileNames_sublist found').nodup (hwf'.names_nodup hfound'))
    ((Templates.fileNames_sublist found).nodup (hwf.names_nodup hfound))).2 hmem
  exact hperm.eq_of_pairwise (fun _ _ _ _ => Bytes.le_antisymm)
    ((names_sorted hfound').sublist (Templates.fileNames_sublist found'))
    ((names_sorted hfound).sublist (Templates.fileNames_sublist found))

end FileSystem

end Listing

/-! ## §2 Loading -/

section Loading

open FileSystem

variable {fs fs' : FileSystem} {made : Place → Prop} {filed : Place → Bytes → Prop}

/-- Computations that succeed still do if each of them is replaced by one with the same result. -/
theorem mapM_eq_ok_of_forall {ε α β : Type} {f f' : α → Except ε β} {xs : List α} {ys : List β}
    (h : xs.mapM f = .ok ys) (hstep : ∀ x ∈ xs, ∀ y, f x = .ok y → f' x = .ok y) :
    xs.mapM f' = .ok ys := by
  rw [mapM_eq_ok_iff] at h ⊢
  induction h with
  | nil => exact .nil
  | cons hx _ ih =>
    obtain ⟨hfirst, hrest⟩ := List.forall_mem_cons.1 hstep
    exact .cons (hfirst _ hx) (ih hrest)

/-- Templates are loaded as before after edits away from them. -/
theorem Templates.load_edits (h : Edits made filed fs fs') (hwf : fs.WellFormed)
    (hwf' : fs'.WellFormed) {dir : Bytes} {templates : Templates}
    (hload : Templates.load fs dir = .ok templates)
    (hpaths : ∀ path ∈ Templates.paths fs dir, ∀ c, ¬ filed (fs.placeOf path) c)
    (hdirectory : dir ≠ [] → ∀ name c, ¬ filed (fs.placeOf dir ++ [name]) c) :
    Templates.load fs' dir = .ok templates := by
  cases dir with
  | nil => exact hload
  | cons b dir =>
    unfold Templates.load at hload ⊢
    unfold Templates.paths at hpaths
    simp only [List.isEmpty_cons, Bool.false_eq_true, if_false] at hload hpaths ⊢
    cases hfound : fs.names (b :: dir) with
    | error cause => simp [hfound] at hload
    | ok found =>
      obtain ⟨found', hfound'⟩ := h.names hfound
      have hlisted := h.fileNames_eq hwf hwf' hfound hfound' (hdirectory (List.cons_ne_nil b dir))
      simp only [hfound, hfound', hlisted] at hload hpaths ⊢
      cases hfiles : Templates.readFiles fs (b :: dir) (Templates.fileNames found) with
      | error cause => simp [hfiles] at hload
      | ok files =>
        have hfiles' : Templates.readFiles fs' (b :: dir) (Templates.fileNames found) = .ok files := by
          refine mapM_eq_ok_of_forall hfiles fun name hname file hfile => ?_
          obtain ⟨content, hread, rfl⟩ := ok_of_map_eq_ok hfile
          rw [h.read hread (hpaths _ (List.mem_map_of_mem hname))]
          rfl
        simp only [hfiles, hfiles'] at hload ⊢
        exact hload

namespace Generator

/-- A script is loaded as before after edits away from it. -/
theorem loadScript_edits (h : Edits made filed fs fs') {name : Bytes} {script : Script}
    (hload : loadScript fs name = .ok script) (hfiled : ∀ c, ¬ filed (fs.placeOf (trim name)) c) :
    loadScript fs' name = .ok script := by
  unfold loadScript at hload ⊢
  cases hread : fs.read (trim name) with
  | error cause => simp [hread] at hload
  | ok text =>
    rw [h.read hread hfiled]
    rw [hread] at hload
    exact hload

/-- A run loads the same after edits away from its inputs. -/
theorem load_edits (h : Edits made filed fs fs') (hwf : fs.WellFormed) (hwf' : fs'.WellFormed)
    {config : Config} {inputs : Inputs} (hload : load config fs = .ok inputs)
    (hpaths : ∀ path ∈ inputPaths config fs, ∀ c, ¬ filed (fs.placeOf path) c)
    (hdirectory : config.template ≠ [] →
      ∀ name c, ¬ filed (fs.placeOf config.template ++ [name]) c) :
    load config fs' = .ok inputs := by
  obtain ⟨hscripts, hreadme, htemplates⟩ := load_eq_ok_iff.1 hload
  obtain ⟨hpathScripts, hpathReadme, hpathTemplates⟩ :
      (∀ path ∈ config.scripts.map trim, ∀ c, ¬ filed (fs.placeOf path) c) ∧
        (∀ c, ¬ filed (fs.placeOf config.readme) c) ∧
        ∀ path ∈ Templates.paths fs config.template, ∀ c, ¬ filed (fs.placeOf path) c := by
    rw [inputPaths, List.forall_mem_append, List.forall_mem_cons] at hpaths
    exact hpaths
  refine load_eq_ok_iff.2 ⟨?_, h.read hreadme hpathReadme, ?_⟩
  · refine mapM_eq_ok_of_forall hscripts fun name hname script hscript => ?_
    exact loadScript_edits h hscript (hpathScripts _ (List.mem_map_of_mem hname))
  · exact Templates.load_edits h hwf hwf' htemplates hpathTemplates hdirectory

end Generator

end Loading

/-! ## §3 Generating again -/

namespace Generator

open Publish

/-- The pages of a run keep away from its inputs: none is written over a file that the run reads, or
    put directly in the template directory. -/
structure Clear (config : Config) (fs : FileSystem) (pages : List Page) : Prop where
  inputs : ∀ p ∈ pages, ∀ target, pagePath config.output p.path = .ok target →
    ∀ path ∈ inputPaths config fs, fs.placeOf target ≠ fs.placeOf path
  templates : config.template ≠ [] → ∀ p ∈ pages, ∀ target,
    pagePath config.output p.path = .ok target →
      ∀ name, fs.placeOf target ≠ fs.placeOf config.template ++ [name]

variable {g : Generator} {cancelled : Bool} {fs : FileSystem} {r : Result} {stats : Stats}

/-- Writing pages that keep away from the inputs does not change what a run renders. -/
theorem rendering_written (hwf : fs.WellFormed) (hrendered : g.rendering cancelled fs = .ok r)
    (hdistinct : DistinctPaths g.config.output r.site.pages) (hclear : Clear g.config fs r.site.pages)
    (hwrite : (write cancelled g.config.output r.site.pages fs).2.2 = .ok stats) :
    g.rendering cancelled (write cancelled g.config.output r.site.pages fs).1 = .ok r := by
  obtain ⟨inputs, hload⟩ := exists_load_of_rendering hrendered
  obtain ⟨hfits, hready, -, -⟩ := written_site hwf hdistinct hwrite
  have haccepted : ∀ p ∈ r.site.pages, ¬ Refused g.config.output p.path := by
    intro p hp
    rw [refused_iff, (hfits p hp).isLocal]
    decide
  have hedits := write_edits_of_accepted cancelled fs haccepted
  have hagain := load_edits hedits hwf hready.wellFormed hload ?_ ?_
  · rw [rendering_congr (hagain.trans hload.symm), hrendered]
  · intro path hpath c ⟨p, hp, target, htarget, hplace, _⟩
    exact hclear.inputs p hp target htarget path hpath hplace.symm
  · intro hne name c ⟨p, hp, target, htarget, hplace, _⟩
    exact hclear.templates hne p hp target htarget name hplace.symm

/-- A generating run that ends well rendered a site and wrote it. -/
theorem exists_of_generate (h : (g.generate cancelled fs).2.2.error = none) :
    ∃ r stats, g.rendering cancelled fs = .ok r ∧
      (write cancelled g.config.output r.site.pages fs).2.2 = .ok stats := by
  cases hrendered : g.rendering cancelled fs with
  | error e =>
    rw [(generate_of_error hrendered).2] at h
    cases h
  | ok r =>
    obtain ⟨-, hran⟩ := generate_of_rendered hrendered
    cases hwrite : (write cancelled g.config.output r.site.pages fs).2.2 with
    | error cause =>
      simp only [hwrite, h] at hran
      cases hran
    | ok stats => exact ⟨r, stats, rfl, hwrite⟩

/-- Generating is idempotent.  After a run that generated a site whose pages have paths of their own
    and keep away from the inputs, a check passes, and another run ends well with the same result,
    writes nothing, counts every page as unchanged and leaves the files as they are.  The runs that
    follow may have any numbers. -/
theorem regeneration_changes_nothing (hwf : fs.WellFormed)
    (hok : (g.generate cancelled fs).2.2.error = none) :
    ∃ r, (g.generate cancelled fs).2.2.build.result = some r ∧
      (DistinctPaths g.config.output r.site.pages → Clear g.config fs r.site.pages → ∀ runs : Nat,
        let g' : Generator := { g with runs }
        let fs' := (g.generate cancelled fs).2.1
        ((g'.check false fs').2.error = none ∧
          (g'.check false fs').2.build.status = .completed) ∧
        (g'.generate false fs').2.1 = fs' ∧
        let ran := (g'.generate false fs').2.2
        ran.error = none ∧ ran.build.status = .completed ∧ ran.build.result = some r ∧
          ran.build.progress.written = 0 ∧
          ran.build.progress.unchanged = r.site.pages.length) := by
  obtain ⟨r, stats, hrendered, hwrite⟩ := exists_of_generate hok
  obtain ⟨hfiles, hran⟩ := generate_of_rendered hrendered
  simp only [hwrite] at hran
  refine ⟨r, hran.2.2.1, fun hdistinct hclear runs => ?_⟩
  simp only [hfiles]
  obtain rfl := not_cancelled_of_rendering hrendered
  have hagain : ({ g with runs } : Generator).rendering false
      (write false g.config.output r.site.pages fs).1 = .ok r :=
    rendering_written hwf hrendered hdistinct hclear hwrite
  obtain ⟨hsame, hstats⟩ := write_written hwf hdistinct hwrite
  refine ⟨check_of_rendered hagain (check_eq_ok_iff.2 (diffs_written hwf hdistinct hwrite)), ?_⟩
  obtain ⟨hfiles', hran'⟩ := generate_of_rendered hagain
  simp only [hstats] at hran'
  exact ⟨hfiles'.trans hsame, hran'⟩

set_option maxRecDepth 4000 in
/-- The site of a class with a method goes into a directory that the run makes among its own templates,
    one of which goes along with the pages. -/
theorem site_among_templates_regenerated :
    let fs : FileSystem := ⟨[([bytes "a.js"],
        .file (bytes "/*?\nclass a.Foo\na.Foo#run() -> a.Foo\n**/")),
      ([bytes "t", bytes "page.html"], .file (bytes "[[title]]")),
      ([bytes "t", bytes "look.css"], .file (bytes "c")),
      ([bytes "t", bytes "index.html"], .file (bytes "i")), ([bytes "t"], .directory),
      ([bytes "r"], .file [])], []⟩
    let g : Generator := ⟨{ Config.empty with
      scripts := [bytes " a.js"], readme := bytes "r", output := bytes "t/site",
      template := bytes "t" }, .ok, 0⟩
    fs.WellFormed ∧ (g.generate false fs).2.2.error = none ∧
      (g.generate false fs).2.2.build.progress.written = 4 ∧
      (g.next.1.check false (g.generate false fs).2.1).2.error = none ∧
      (g.next.1.generate false (g.generate false fs).2.1).2.1 = (g.generate false fs).2.1 ∧
      (g.next.1.generate false (g.generate false fs).2.1).2.2.build.progress.written = 0 ∧
      (g.next.1.generate false (g.generate false fs).2.1).2.2.build.progress.unchanged = 4 := by
  intro fs g
  have hwf : fs.WellFormed := by decide
  have hload : load g.config fs = .ok ⟨[⟨bytes "a.js",
      bytes "/*?\nclass a.Foo\na.Foo#run() -> a.Foo\n**/"⟩], [],
      ⟨bytes "i", bytes "[[title]]", [(bytes "look.css", bytes "c")]⟩⟩ := by
    unfold load Templates.load FileSystem.names
    simp only [Bytes.mergeSort_key]
    decide
  have hview : ((parseScripts [⟨bytes "a.js",
      bytes "/*?\nclass a.Foo\na.Foo#run() -> a.Foo\n**/"⟩]).1.toOption.map fun t =>
        (Site.build .ok t [] ⟨bytes "i", bytes "[[title]]", [(bytes "look.css", bytes "c")]⟩
          []).toOption.map Site.pages) =
      some (some [⟨bytes "index.html", bytes "i"⟩, ⟨bytes "a.Foo.html", bytes "a.Foo"⟩,
        ⟨bytes "a.Foo.prototype.run.html", bytes "a.Foo#run"⟩, ⟨bytes "look.css", bytes "c"⟩]) := by
    unfold Site.build Site.indexPage Site.entityPage Site.assetPages fill
    simp only [Bytes.mergeSort_key]
    decide
  obtain ⟨r, hrendered, hpages⟩ := exists_rendering_of_view hload hview
  have hwrite : (write false g.config.output r.site.pages fs).2.2 = .ok ⟨4, 0⟩ := by
    rw [hpages]
    decide
  obtain ⟨-, hran⟩ := generate_of_rendered hrendered
  simp only [hwrite] at hran
  obtain ⟨hok, -, hresult, hwritten, -⟩ := hran
  -- pages are three names deep, and inputs are not
  have hdeep : ∀ p ∈ r.site.pages, ∀ target, pagePath g.config.output p.path = .ok target →
      (fs.placeOf target).length = 3 := by
    intro p hp target htarget
    rw [(pagePath_eq_ok_iff.1 htarget).2]
    clear htarget
    rw [hpages] at hp
    revert p
    decide
  have hinputs : inputPaths g.config fs = [bytes "a.js", bytes "r", bytes "t/index.html",
      bytes "t/look.css", bytes "t/page.html"] := by
    unfold inputPaths Templates.paths FileSystem.names
    simp only [Bytes.mergeSort_key]
    decide
  have hshallow : ∀ path ∈ inputPaths g.config fs, (fs.placeOf path).length < 3 := by
    rw [hinputs]
    decide
  have htemplate : fs.placeOf g.config.template = [bytes "t"] := by decide
  have hclear : Clear g.config fs r.site.pages :=
    { inputs := fun p hp target htarget path hpath hplace =>
        absurd (hplace ▸ hdeep p hp target htarget) (hshallow path hpath).ne
      templates := fun _ p hp target htarget name hplace => by
        have hlength := hdeep p hp target htarget
        rw [hplace, htemplate] at hlength
        exact absurd hlength (by simp) }
  have hdistinct : DistinctPaths g.config.output r.site.pages := by
    rw [hpages]
    exact distinctPaths_of_nodup (by decide)
  -- from here on the values do not matter
  have hcount : (r.site.pages.length : Int) = 4 := by rw [hpages]; rfl
  clear_value fs g
  obtain ⟨r', hresult', hagain⟩ := regeneration_changes_nothing hwf hok
  obtain rfl : r = r' := Option.some.inj (hresult.symm.trans hresult')
  obtain ⟨⟨hcheck, -⟩, hsame, -, -, -, hnone, hall⟩ := hagain hdistinct hclear (g.runs + 1)
  exact ⟨hwf, hok, hwritten, hcheck, hsame, hnone, hall.trans hcount⟩

end Generator

end DocPages
