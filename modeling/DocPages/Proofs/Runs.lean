import DocPages.Generator
import DocPages.Proofs.SessionRun
import DocPages.Proofs.UpToDate

/-!
# What Runs Come To

Every run starts by rendering the site: it reads the inputs, gives up if it was cancelled meanwhile,
parses the scripts and builds the pages.  What comes of that depends on the settings and the files, not
on the build that keeps the record.  The three kinds of run differ in what they do with a rendered
site.

## Main results

- `Generator.rendering`: what rendering comes to, phase by phase
- `Generator.renderSite_eq`: every run renders the site in this way
- `Generator.generate_of_error`, `Generator.generate_of_rendered`: what a generating run comes to
- `Generator.check_of_rendered`: what a checking run comes to
-/

namespace DocPages

/-- The paths of the files in a template directory. -/
def Templates.paths (fs : FileSystem) (dir : Bytes) : List Bytes :=
  if dir.isEmpty then []
  else
    match fs.names dir with
    | .ok entries => (fileNames entries).map (Path.join dir)
    | .error _ => []

namespace Generator

/-! ## §1 Inputs -/

/-- The paths of the files that a run reads: the scripts, the readme and the templates. -/
def inputPaths (config : Config) (fs : FileSystem) : List Bytes :=
  config.scripts.map trim ++ config.readme :: Templates.paths fs config.template

theorem load_eq_ok_iff {config : Config} {fs : FileSystem} {inputs : Inputs} :
    load config fs = .ok inputs ↔
      config.scripts.mapM (loadScript fs) = .ok inputs.scripts ∧
        fs.read config.readme = .ok inputs.readme ∧
        Templates.load fs config.template = .ok inputs.templates := by
  unfold load
  cases config.scripts.mapM (loadScript fs) with
  | error cause => simp
  | ok scripts =>
    cases fs.read config.readme with
    | error cause => simp
    | ok readme =>
      cases Templates.load fs config.template with
      | error cause => simp
      | ok templates =>
        cases inputs
        simp

variable {g : Generator} {cancelled : Bool} {fs : FileSystem} {r : Result}

/-! ## §2 Rendering -/

/-- What rendering the site comes to. -/
def rendering (g : Generator) (cancelled : Bool) (fs : FileSystem) : Except RunError Result :=
  match load g.config fs with
  | .error e => .error e
  | .ok inputs =>
    if cancelled then .error .cancelled
    else
      match (parseScripts inputs.scripts).1 with
      | .error cause => .error (.parsing cause)
      | .ok t =>
        match Site.build g.convert t inputs.readme inputs.templates g.config.sourceLinkPrefix with
        | .error cause => .error (.rendering cause)
        | .ok site => .ok (g.result t site)

/-- Every run renders the site in this way, and the build keeps the result. -/
theorem renderSite_eq (b : Build) :
    (g.renderSite cancelled fs b).2.2 = g.rendering cancelled fs ∧
      ∀ r, g.rendering cancelled fs = .ok r → (g.renderSite cancelled fs b).1.result = some r := by
  unfold renderSite rendering
  cases load g.config fs with
  | error e => simp [stop]
  | ok inputs =>
    cases cancelled with
    | true => simp [stop]
    | false =>
      simp only [Bool.false_eq_true, if_false]
      unfold renderInputs
      rcases hparsed : parseScripts inputs.scripts with ⟨cause | t, records⟩
      · simp [stop]
      · rcases hbuilt : Site.build g.convert t inputs.readme inputs.templates
          g.config.sourceLinkPrefix with cause | site
        · simp [hbuilt, stop]
        · simp [hbuilt, Build.keep]

/-- A site is rendered from inputs that could be loaded. -/
theorem exists_load_of_rendering (h : g.rendering cancelled fs = .ok r) :
    ∃ inputs, load g.config fs = .ok inputs := by
  unfold rendering at h
  cases hload : load g.config fs with
  | error e => simp [hload] at h
  | ok inputs => exact ⟨inputs, rfl⟩

/-- A run that is cancelled does not get as far as a result. -/
theorem not_cancelled_of_rendering (h : g.rendering cancelled fs = .ok r) : cancelled = false := by
  obtain ⟨inputs, hload⟩ := exists_load_of_rendering h
  cases cancelled with
  | true => simp [rendering, hload] at h
  | false => rfl

/-- Rendering sees the files only through what it loads. -/
theorem rendering_congr {fs' : FileSystem} (h : load g.config fs' = load g.config fs) :
    g.rendering cancelled fs' = g.rendering cancelled fs := by
  rw [rendering, rendering, h]

/-- The pages of a run, from what parsing and building show. -/
theorem exists_rendering_of_view {inputs : Inputs} {pages : List Page}
    (hload : load g.config fs = .ok inputs)
    (hview : ((parseScripts inputs.scripts).1.toOption.map fun t => (Site.build g.convert t
      inputs.readme inputs.templates g.config.sourceLinkPrefix).toOption.map Site.pages) =
        some (some pages)) :
    ∃ r, g.rendering false fs = .ok r ∧ r.site.pages = pages := by
  obtain ⟨t, hparse, hsite⟩ := exists_tree_of_view hview
  cases hbuild : Site.build g.convert t inputs.readme inputs.templates g.config.sourceLinkPrefix with
  | error cause =>
    rw [hbuild] at hsite
    cases hsite
  | ok site =>
    rw [hbuild] at hsite
    refine ⟨g.result t site, ?_, Option.some.inj hsite⟩
    simp [rendering, hload, hparse, hbuild]

/-! ## §3 Runs -/

/-- The outcome of rendering in the next run. -/
theorem exists_renderSite :
    ∃ b records, g.next.1.renderSite cancelled fs g.next.2 = (b, records, g.rendering cancelled fs) ∧
      ∀ r, g.rendering cancelled fs = .ok r → b.result = some r := by
  obtain ⟨hresult, hkept⟩ := @renderSite_eq g.next.1 cancelled fs g.next.2
  exact ⟨_, _, Prod.ext rfl (Prod.ext rfl hresult), hkept⟩

/-- A run that does not get as far as a result leaves the files as they are. -/
theorem generate_of_error {e : RunError} (h : g.rendering cancelled fs = .error e) :
    (g.generate cancelled fs).2.1 = fs ∧ (g.generate cancelled fs).2.2.error = some e := by
  obtain ⟨b, records, hsite, -⟩ := @exists_renderSite g cancelled fs
  rw [h] at hsite
  have hrun : g.generate cancelled fs = (g.next.1, fs, .of b records (some e)) := by
    unfold generate
    simp only [hsite]
  rw [hrun]
  exact ⟨rfl, rfl⟩

/-- A generating run writes the pages that it rendered. -/
theorem generate_of_rendered (h : g.rendering cancelled fs = .ok r) :
    (g.generate cancelled fs).2.1 = (Publish.write cancelled g.config.output r.site.pages fs).1 ∧
      match (Publish.write cancelled g.config.output r.site.pages fs).2.2 with
      | .error cause => (g.generate cancelled fs).2.2.error = some (.publishing cause)
      | .ok stats =>
        let ran := (g.generate cancelled fs).2.2
        ran.error = none ∧ ran.build.status = .completed ∧ ran.build.result = some r ∧
          ran.build.progress.written = stats.written ∧
          ran.build.progress.unchanged = stats.unchanged := by
  obtain ⟨b, records, hsite, hkept⟩ := @exists_renderSite g cancelled fs
  have hresult := hkept r h
  rw [h] at hsite
  unfold generate
  simp only [hsite]
  rw [show g.next.1.config = g.config from rfl]
  rcases Publish.write cancelled g.config.output r.site.pages fs with ⟨fs', written, cause | stats⟩
  · exact ⟨rfl, rfl⟩
  · exact ⟨rfl, rfl, rfl, hresult, rfl, rfl⟩

/-- A checking run compares the pages that it rendered with the files. -/
theorem check_of_rendered (h : g.rendering cancelled fs = .ok r)
    (hcheck : Publish.check g.config.output fs r.site.pages = .ok ()) :
    (g.check cancelled fs).2.error = none ∧
      (g.check cancelled fs).2.build.status = .completed := by
  obtain ⟨b, records, hsite, -⟩ := @exists_renderSite g cancelled fs
  rw [h] at hsite
  unfold check
  simp only [hsite]
  rw [show g.next.1.config = g.config from rfl, hcheck]
  exact ⟨rfl, rfl⟩

end Generator

end DocPages
