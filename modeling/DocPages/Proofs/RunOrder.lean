import DocPages.Proofs.FileProcedures

/-!
# The Order of a Run

The three kinds of run are carried out by procedures on files.  Each first reads its inputs: the scripts
in order, the readme, then the template directory and its files.  Rendering and checking only read.
Generating goes on to the output directory once the site is rendered, and does not look at an input
again, so what it writes is the site of the files as they were.

## Main results

- `Generator.carries_loadProcedure`: which accesses reading the inputs makes
- `Generator.run_renderProcedure`, `Generator.run_checkProcedure`, `Generator.run_generateProcedure`:
  the runs as procedures
- `Generator.failed_run_publishes_nothing`: nothing is written before the site is rendered
-/

namespace DocPages

open Procedure

/-! ## §1 Reading the inputs -/

namespace Templates

/-- The accesses that reading the templates in a directory makes. -/
def accesses (fs : FileSystem) (dir : Bytes) : List Access :=
  if dir.isEmpty then [] else .list dir :: (paths fs dir).map .read

/-- The templates among the files of a directory. -/
def ofFiles (dir : Bytes) (files : List (Bytes × Bytes)) : Except Error Templates :=
  match files.lookup indexTemplate, files.lookup pageTemplate with
  | some index, some page =>
    .ok ⟨index, page, files.filter fun f => f.1 != indexTemplate && f.1 != pageTemplate⟩
  | _, _ => .error (.incomplete dir)

/-- Reads the templates in a directory. -/
def loadProcedure (dir : Bytes) : Procedure (Except Error Templates) :=
  if dir.isEmpty then .done (.ok builtIn)
  else
    (Procedure.access (.list dir) .done).andThen .directory fun entries =>
      (readEach (Path.join dir) Prod.mk (fileNames entries)).andThen .file fun files =>
        .done (ofFiles dir files)

theorem carries_loadProcedure (fs : FileSystem) (dir : Bytes) :
    (loadProcedure dir).Carries fs (accesses fs dir) (load fs dir) := by
  cases dir with
  | nil => exact carries_done fs _
  | cons b dir =>
    have hload : load fs (b :: dir) = ((fs.names (b :: dir)).mapError Error.directory).bind
        fun entries => ((readFiles fs (b :: dir) (fileNames entries)).mapError Error.file).bind
          (ofFiles (b :: dir)) := by
      unfold load
      rw [if_neg (by simp)]
      cases fs.names (b :: dir) with
      | error cause => rfl
      | ok entries =>
        dsimp only [Except.mapError, Except.bind]
        cases readFiles fs (b :: dir) (fileNames entries) with
        | error cause => rfl
        | ok files => rfl
    rw [hload]
    refine (carries_list fs (b :: dir)).andThen Error.directory fun entries hentries => ?_
    have hpaths : (paths fs (b :: dir)).map Access.read =
        ((fileNames entries).map fun name => Access.read (Path.join (b :: dir) name)) ++ [] := by
      simp [paths, hentries]
    rw [hpaths]
    exact (carries_readEach (Path.join (b :: dir)) Prod.mk fs (fileNames entries)).andThen Error.file
      fun files _ => carries_done fs (ofFiles (b :: dir) files)

end Templates

namespace Generator

/-- The accesses that reading the inputs makes. -/
def inputAccesses (config : Config) (fs : FileSystem) : List Access :=
  (config.scripts.map fun name => .read (trim name)) ++
    .read config.readme :: Templates.accesses fs config.template

theorem isReading_of_mem_inputAccesses {config : Config} {fs : FileSystem} (a : Access)
    (ha : a ∈ inputAccesses config fs) : a.isReading = true := by
  have htemplates : ∀ a ∈ Templates.accesses fs config.template, a.isReading = true := by
    intro a ha
    unfold Templates.accesses at ha
    split at ha
    · cases ha
    · rcases List.mem_cons.1 ha with rfl | ha
      · rfl
      · obtain ⟨path, -, rfl⟩ := List.mem_map.1 ha
        rfl
  rcases List.mem_append.1 ha with ha | ha
  · obtain ⟨name, -, rfl⟩ := List.mem_map.1 ha
    rfl
  · rcases List.mem_cons.1 ha with rfl | ha
    · rfl
    · exact htemplates a ha

/-- Reads the inputs. -/
def loadProcedure (config : Config) : Procedure (Except RunError Inputs) :=
  (readEach trim (fun name text => ⟨trim name, text⟩) config.scripts).andThen .script fun scripts =>
    (Procedure.access (.read config.readme) .done).andThen .readme fun readme =>
      (Templates.loadProcedure config.template).andThen .templates fun templates =>
        .done (.ok ⟨scripts, readme, templates⟩)

/-- Reading the inputs makes the accesses that are planned, until one fails. -/
theorem carries_loadProcedure (config : Config) (fs : FileSystem) :
    (loadProcedure config).Carries fs (inputAccesses config fs) (load config fs) := by
  have hscript : loadScript fs = fun name => (fs.read (trim name)).map (Script.mk (trim name)) := by
    funext name
    unfold loadScript
    cases fs.read (trim name) with
    | error cause => rfl
    | ok text => rfl
  have hload : load config fs = ((config.scripts.mapM (loadScript fs)).mapError RunError.script).bind
      fun scripts => ((fs.read config.readme).mapError RunError.readme).bind
        fun readme => ((Templates.load fs config.template).mapError RunError.templates).bind
          fun templates => .ok ⟨scripts, readme, templates⟩ := by
    unfold load
    cases config.scripts.mapM (loadScript fs) with
    | error cause => rfl
    | ok scripts =>
      cases fs.read config.readme with
      | error cause => rfl
      | ok readme =>
        cases Templates.load fs config.template with
        | error cause => rfl
        | ok templates => rfl
  have hcarries := (carries_readEach trim (fun name => Script.mk (trim name)) fs
    config.scripts).andThen RunError.script fun scripts _ =>
      (carries_read fs config.readme).andThen RunError.readme fun readme _ =>
        (Templates.carries_loadProcedure fs config.template).andThen RunError.templates
          fun templates _ => carries_done fs (.ok (Inputs.mk scripts readme templates))
  rw [List.append_nil] at hcarries
  rw [hload, hscript]
  exact hcarries

/-! ## §2 Runs as procedures -/

/-- Renders what was loaded. -/
def renderLoaded (g : Generator) (cancelled : Bool) (b : Build) (loaded : Except RunError Inputs) :
    Outcome :=
  let b := b.enter .reading
  match loaded with
  | .error e => stop b [] .reading e
  | .ok inputs =>
    let b := { b with progress := { b.progress with scripts := inputs.scripts.length } }
    if cancelled then stop b [] .reading .cancelled else g.renderInputs inputs b

/-- Reads the inputs and renders them. -/
def renderSiteProcedure (g : Generator) (cancelled : Bool) (b : Build) : Procedure Outcome :=
  (loadProcedure g.config).bind fun loaded => .done (g.renderLoaded cancelled b loaded)

/-- Renders the site without writing it. -/
def renderProcedure (g : Generator) (cancelled : Bool) : Procedure (Generator × Ran) :=
  (g.next.1.renderSiteProcedure cancelled g.next.2).bind fun
    | (b, records, .error e) => .done (g.next.1, .of b records (some e))
    | (b, records, .ok _) => .done (g.next.1, .of (b.complete "rendered") records none)

/-- Renders the site and writes it to the output directory. -/
def generateProcedure (g : Generator) (cancelled : Bool) : Procedure (Generator × Ran) :=
  (g.next.1.renderSiteProcedure cancelled g.next.2).bind fun
    | (b, records, .error e) => .done (g.next.1, .of b records (some e))
    | (b, records, .ok r) =>
      let b := b.enter .writing
      (Publish.writeProcedure cancelled g.config.output r.site.pages).bind fun
        | (written, .error cause) =>
          let (b, records, _) := stop b (records ++ written) .writing (.publishing cause)
          .done (g.next.1, .of b records (some (.publishing cause)))
        | (written, .ok stats) =>
          let b := { b with progress := { b.progress with
            written := stats.written, unchanged := stats.unchanged } }
          .done (g.next.1, .of (b.complete "done")
            (records ++ written ++ [generated g.config.output r]) none)

/-- Renders the site and compares it with the output directory. -/
def checkProcedure (g : Generator) (cancelled : Bool) : Procedure (Generator × Ran) :=
  (g.next.1.renderSiteProcedure cancelled g.next.2).bind fun
    | (b, records, .error e) => .done (g.next.1, .of b records (some e))
    | (b, records, .ok r) =>
      let b := b.enter .checking
      (Publish.checkProcedure g.config.output r.site.pages).bind fun
        | .error cause =>
          let (b, records, _) := stop b records .checking (.publishing cause)
          .done (g.next.1, .of b records (some (.publishing cause)))
        | .ok () =>
          .done (g.next.1, .of (b.complete "up to date") (records ++ [upToDate g.config.output]) none)

variable (g : Generator) (cancelled : Bool) (fs : FileSystem)

/-- Rendering accesses nothing but the inputs. -/
theorem run_renderSiteProcedure (b : Build) :
    (g.renderSiteProcedure cancelled b).run fs =
      (((loadProcedure g.config).run fs).1, fs, g.renderSite cancelled fs b) := by
  unfold renderSiteProcedure
  rw [run_bind, (carries_loadProcedure g.config fs).outcome]
  simp only [run_done, List.append_nil]
  rfl

theorem run_renderProcedure :
    (g.renderProcedure cancelled).run fs =
      (((loadProcedure g.config).run fs).1, fs, g.render cancelled fs) := by
  unfold renderProcedure render renderStarted
  rw [run_bind, run_renderSiteProcedure]
  simp only
  rcases g.next.1.renderSite cancelled fs g.next.2 with ⟨b, records, e | r⟩
  · simp only [run_done, List.append_nil]
    rfl
  · simp only [run_done, List.append_nil]
    rfl

/-- A checking run reads its inputs, then the files of the pages. -/
theorem run_checkProcedure :
    ∃ compared, (∀ a ∈ compared, a.isReading = true) ∧
      (g.checkProcedure cancelled).run fs =
        (((loadProcedure g.config).run fs).1 ++ compared, fs, g.check cancelled fs) := by
  unfold checkProcedure check
  rw [run_bind, run_renderSiteProcedure]
  simp only
  rcases g.next.1.renderSite cancelled fs g.next.2 with ⟨b, records, e | r⟩
  · exact ⟨[], by simp, rfl⟩
  · have hcarries := Publish.carries_checkProcedure g.config.output r.site.pages fs
    refine ⟨((Publish.checkProcedure g.config.output r.site.pages).run fs).1, ?_, ?_⟩
    · intro a ha
      exact Publish.isReading_of_mem_pageReads a (hcarries.begins.mem ha)
    · simp only [run_bind, hcarries.outcome]
      rw [show g.next.1.config = g.config from rfl]
      cases Publish.check g.config.output fs r.site.pages with
      | error cause => simp only [run_done, List.append_nil]
      | ok _ => simp only [run_done, List.append_nil]

/-- A generating run reads its inputs; once the site is rendered, it writes the site. -/
theorem run_generateProcedure :
    (g.generateProcedure cancelled).run fs =
      (((loadProcedure g.config).run fs).1 ++
        (match g.rendering cancelled fs with
        | .error _ => []
        | .ok r => ((Publish.writeProcedure cancelled g.config.output r.site.pages).run fs).1),
        (g.generate cancelled fs).2.1, (g.generate cancelled fs).1, (g.generate cancelled fs).2.2) := by
  obtain ⟨b, records, hsite, -⟩ := @exists_renderSite g cancelled fs
  unfold generateProcedure generate
  rw [run_bind, run_renderSiteProcedure]
  simp only [hsite]
  cases g.rendering cancelled fs with
  | error e => rfl
  | ok r =>
    have hwrite := Publish.run_writeProcedure cancelled g.config.output r.site.pages fs
    rw [show g.next.1.config = g.config from rfl]
    simp only [run_bind, hwrite]
    rcases Publish.write cancelled g.config.output r.site.pages fs with ⟨fs', written, cause | stats⟩
    · simp only [run_done, List.append_nil]
    · simp only [run_done, List.append_nil]

end Generator

/-! ## §3 Refused pages -/

namespace Publish

variable {cancelled : Bool} {dir : Bytes} {pages : List Page} {fs : FileSystem}

/-- A site with a refused page is not written. -/
theorem write_of_refused (h : ∃ p ∈ pages, Refused dir p.path) :
    ∃ path, write cancelled dir pages fs = (fs, [], .error (.unsafePath path)) := by
  cases hfirst : firstUnsafe? pages with
  | none =>
    obtain ⟨p, hp, hrefused⟩ := h
    exact absurd hrefused (firstUnsafe?_eq_none_iff.1 hfirst p hp)
  | some page =>
    refine ⟨page.path, ?_⟩
    unfold write
    rw [hfirst]

theorem writePage_error_ne {page : Page} (hlocal : Path.isLocal page.path = true) (path : Bytes) :
    (writePage dir fs page).2 ≠ .error (.unsafePath path) := by
  have htarget : pagePath dir page.path = .ok (Path.join dir page.path) :=
    pagePath_eq_ok_iff.2 ⟨hlocal, rfl⟩
  unfold writePage
  rw [htarget]
  dsimp only
  split
  · simp
  · split
    · simp
    · split
      · simp
      · simp

/-- Writing pages that stay below the output directory does not fail for a path that leaves it. -/
theorem writePages_error_ne (hlocal : ∀ p ∈ pages, Path.isLocal p.path = true) (stats : Stats)
    (path : Bytes) : (writePages dir fs stats pages).2.2 ≠ .error (.unsafePath path) := by
  induction pages generalizing fs stats with
  | nil => simp [writePages]
  | cons page rest ih =>
    obtain ⟨hpage, hrest⟩ := List.forall_mem_cons.1 hlocal
    have hfirst := @writePage_error_ne dir fs page hpage path
    rw [writePages]
    rcases hwritten : writePage dir fs page with ⟨fs', e | written⟩
    · rw [hwritten] at hfirst
      simpa using hfirst
    · cases written with
      | true => exact ih hrest _
      | false => exact ih hrest _

/-- Writing that fails for a path that leaves the output directory changes nothing. -/
theorem write_files_of_unsafePath {path : Bytes}
    (h : (write cancelled dir pages fs).2.2 = .error (.unsafePath path)) :
    (write cancelled dir pages fs).1 = fs := by
  cases hfirst : firstUnsafe? pages with
  | some page =>
    unfold write
    rw [hfirst]
  | none =>
    have hlocal : ∀ p ∈ pages, Path.isLocal p.path = true := by
      simpa [firstUnsafe?] using hfirst
    unfold write at h
    rw [hfirst] at h
    rcases hmade : fs.makeDirectories dir with ⟨fs', _ | cause⟩
    · simp only [hmade] at h
      cases hcancelled : cancelled && !pages.isEmpty with
      | true => simp [hcancelled] at h
      | false =>
        have hne := @writePages_error_ne dir pages fs' hlocal ⟨0, 0⟩ path
        rw [hcancelled] at h
        rcases hwritten : writePages dir fs' ⟨0, 0⟩ pages with ⟨fs'', records, e | stats⟩
        · simp only [hwritten] at h hne
          exact absurd h hne
        · simp [hwritten] at h
    · simp [hmade] at h

end Publish

/-- Whether an error ends a run before it goes to the output directory. -/
def RunError.precedesWriting : RunError → Bool
  | .publishing (.unsafePath _) => true
  | .publishing _ => false
  | _ => true

namespace Generator

/-- An error from before the writing leaves the files as they were. -/
theorem files_of_precedesWriting {g : Generator} {cancelled : Bool} {fs : FileSystem} {e : RunError}
    (h : (g.generate cancelled fs).2.2.error = some e) (hbefore : e.precedesWriting = true) :
    (g.generate cancelled fs).2.1 = fs := by
  cases hrendered : g.rendering cancelled fs with
  | error e' => exact (generate_of_error hrendered).1
  | ok r =>
    obtain ⟨hfiles, hran⟩ := generate_of_rendered hrendered
    rw [hfiles]
    cases hwrite : (Publish.write cancelled g.config.output r.site.pages fs).2.2 with
    | ok stats =>
      simp only [hwrite, h] at hran
      cases hran.1
    | error cause =>
      simp only [hwrite, h] at hran
      obtain rfl : e = .publishing cause := Option.some.inj hran
      -- of the errors of publishing only a refused page comes first
      cases cause with
      | unsafePath path => exact Publish.write_files_of_unsafePath hwrite
      | _ => cases hbefore

/-- Nothing is published before the site is rendered.  Rendering and checking only read and leave the
    files as they are.  A generating run that fails while it reads, parses or renders, or because a
    page would leave the output directory, leaves the files as they were.  In every generating run the
    scripts, the readme and the templates are read first, and all of them before anything is written;
    after that only the output directory and the files of the pages are accessed, and what is written
    are the pages of the site that was rendered from the files as they were. -/
theorem failed_run_publishes_nothing (g : Generator) (cancelled : Bool) (fs : FileSystem) :
    (∃ accesses, (g.renderProcedure cancelled).run fs = (accesses, fs, g.render cancelled fs) ∧
      ∀ a ∈ accesses, a.isReading = true) ∧
    (∃ accesses, (g.checkProcedure cancelled).run fs = (accesses, fs, g.check cancelled fs) ∧
      ∀ a ∈ accesses, a.isReading = true) ∧
    (∀ e, g.rendering cancelled fs = .error e →
      (g.generate cancelled fs).2.1 = fs ∧ (g.generate cancelled fs).2.2.error = some e) ∧
    (∀ r, g.rendering cancelled fs = .ok r →
      (∃ p ∈ r.site.pages, Publish.Refused g.config.output p.path) →
        (g.generate cancelled fs).2.1 = fs ∧
          ∃ path, (g.generate cancelled fs).2.2.error = some (.publishing (.unsafePath path))) ∧
    (∀ e, (g.generate cancelled fs).2.2.error = some e → e.precedesWriting = true →
      (g.generate cancelled fs).2.1 = fs) ∧
    ∃ inputs outputs,
      (g.generateProcedure cancelled).run fs = (inputs ++ outputs, (g.generate cancelled fs).2.1,
        (g.generate cancelled fs).1, (g.generate cancelled fs).2.2) ∧
      inputs <+: inputAccesses g.config fs ∧
      match g.rendering cancelled fs with
      | .error _ => outputs = []
      | .ok r => inputs = inputAccesses g.config fs ∧
          (∀ a ∈ outputs, Publish.Touches g.config.output r.site.pages a) ∧
          (g.generate cancelled fs).2.1 =
            (Publish.write cancelled g.config.output r.site.pages fs).1 := by
  have hload := carries_loadProcedure g.config fs
  have hreads : ∀ a ∈ ((loadProcedure g.config).run fs).1, a.isReading = true :=
    fun a ha => isReading_of_mem_inputAccesses a (hload.begins.mem ha)
  refine ⟨⟨_, g.run_renderProcedure cancelled fs, hreads⟩, ?_, fun e => generate_of_error, ?_, ?_, ?_⟩
  · obtain ⟨compared, hcompared, hrun⟩ := g.run_checkProcedure cancelled fs
    refine ⟨_, hrun, fun a ha => ?_⟩
    exact (List.mem_append.1 ha).elim (hreads a) (hcompared a)
  · intro r hrendered hrefused
    obtain ⟨hfiles, hran⟩ := generate_of_rendered hrendered
    obtain ⟨path, hwrite⟩ := Publish.write_of_refused hrefused
    rw [hwrite] at hfiles hran
    exact ⟨hfiles, path, hran⟩
  · exact fun e => files_of_precedesWriting
  · refine ⟨_, _, g.run_generateProcedure cancelled fs, hload.begins, ?_⟩
    cases hrendered : g.rendering cancelled fs with
    | error e => rfl
    | ok r =>
      obtain ⟨inputs, hinputs⟩ := exists_load_of_rendering hrendered
      refine ⟨hload.complete inputs hinputs, ?_, (generate_of_rendered hrendered).1⟩
      exact (Publish.within_writeProcedure cancelled g.config.output r.site.pages).allowed_of_mem fs

set_option maxRecDepth 4000 in
/-- The page of a method of `../x` would leave the output directory, so the index page is not written
    either. -/
theorem escaping_page_publishes_nothing :
    let fs : FileSystem := ⟨[([bytes "a.js"], .file (bytes "/*?\n../x#y() -> X\n**/")),
      ([bytes "t", bytes "page.html"], .file (bytes "[[title]]")),
      ([bytes "t", bytes "index.html"], .file (bytes "i")), ([bytes "t"], .directory),
      ([bytes "r"], .file [])], []⟩
    let g : Generator := ⟨{ Config.empty with
      scripts := [bytes "a.js"], readme := bytes "r", output := bytes "out",
      template := bytes "t" }, .ok, 0⟩
    ∃ r, g.rendering false fs = .ok r ∧
      r.site.paths = [bytes "index.html", bytes "../x.prototype.y.html"] ∧
      (∃ p ∈ r.site.pages, Publish.Refused g.config.output p.path) ∧
      (g.generate false fs).2.1 = fs ∧
      ∃ path, (g.generate false fs).2.2.error = some (.publishing (.unsafePath path)) := by
  intro fs g
  have hload : load g.config fs = .ok ⟨[⟨bytes "a.js", bytes "/*?\n../x#y() -> X\n**/"⟩], [],
      ⟨bytes "i", bytes "[[title]]", []⟩⟩ := by
    unfold load Templates.load FileSystem.names
    simp only [Bytes.mergeSort_key]
    decide
  have hview : ((parseScripts [⟨bytes "a.js", bytes "/*?\n../x#y() -> X\n**/"⟩]).1.toOption.map
      fun t => (Site.build .ok t [] ⟨bytes "i", bytes "[[title]]", []⟩ []).toOption.map Site.pages) =
      some (some [⟨bytes "index.html", bytes "i"⟩,
        ⟨bytes "../x.prototype.y.html", bytes "../x#y"⟩]) := by
    unfold Site.build Site.indexPage Site.entityPage Site.assetPages fill
    simp only [Bytes.mergeSort_key]
    decide
  obtain ⟨r, hrendered, hpages⟩ := exists_rendering_of_view hload hview
  have hrefused : ∃ p ∈ r.site.pages, Publish.Refused g.config.output p.path := by
    rw [hpages]
    exact ⟨⟨bytes "../x.prototype.y.html", bytes "../x#y"⟩, by simp, Publish.refused_iff.2 (by decide)⟩
  have hpaths : r.site.paths = [bytes "index.html", bytes "../x.prototype.y.html"] := by
    rw [Site.paths, hpages]
    rfl
  obtain ⟨-, -, -, hunsafe, -⟩ := failed_run_publishes_nothing g false fs
  exact ⟨r, hrendered, hpaths, hrefused, hunsafe r hrendered hrefused⟩

end Generator

end DocPages
