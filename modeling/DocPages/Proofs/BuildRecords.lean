import DocPages.Proofs.Accounting
import DocPages.Proofs.PagePaths
import DocPages.Proofs.Runs

/-!
# What Builds Record

A run updates its build piece by piece, and it can end in many places: while it reads, parses, renders,
writes or compares, or well.  Whatever the way, the record must agree with what happened.  What
happens is said without the build: a run renders a site (`Renders`) or fails to (`FailsToRender`), and
it stops in a phase with an error (`Stops`) or not at all.

## Main results

- `Generator.Renders`, `Generator.FailsToRender`, `Generator.Stops`: what happens in a run
- `Generator.Truthful`: a build that records what happened
- `Generator.perform_truthful`: one run of any kind
- `Generator.builds_recorded_truthfully`: any sequence of runs, with edits of the files between them
-/

namespace DocPages

/-! ## §1 Counts -/

theorem length_digest (pages : List Page) : (digest pages).length = 64 := by
  simp [digest, Bytes.hex, Bytes.hexByte, Sha256.hash, Sha256.wordBytes]

/-- A site has an index page, a page for each entity and a page for each asset. -/
theorem Site.length_pages {convert : Converter} {t : Tree} {readme linkPrefix : Bytes}
    {templates : Templates} {site : Site} (ht : t.Invariant)
    (h : build convert t readme templates linkPrefix = .ok site) :
    site.pages.length = 1 + t.size + templates.assets.length := by
  obtain ⟨intro, pages, hpages, hsite⟩ := build_eq_ok h
  have hentities : t.entities.length = t.size := by
    rw [ht.size_eq, ← ht.entities_map_key, List.length_map]
  have hassets : (assetPages templates).length = templates.assets.length := by
    simp [assetPages]
  rw [hsite, List.length_cons, List.length_append, ← hpages.length_eq, hentities, hassets]
  omega

namespace Publish

/-- Every task is counted once, as written or as unchanged. -/
theorem Writes.total {dir : Bytes} {fs fs' : FileSystem} {stats stats' : Stats} {pages : List Page}
    (h : Writes dir fs stats pages fs' stats') :
    stats'.written + stats'.unchanged = stats.written + stats.unchanged + pages.length := by
  induction pages generalizing fs stats with
  | nil => rw [(writes_nil.1 h).2, List.length_nil, Nat.add_zero]
  | cons page rest ih =>
    obtain ⟨fs₁, written, -, hrest⟩ := writes_cons.1 h
    rw [ih hrest, List.length_cons]
    cases written <;> simp only [Stats.count, if_true, Bool.false_eq_true, if_false] <;> omega

/-- A written site has all its pages counted. -/
theorem write_total {cancelled : Bool} {dir : Bytes} {fs : FileSystem} {pages : List Page}
    {stats : Stats} (h : (write cancelled dir pages fs).2.2 = .ok stats) :
    stats.written + stats.unchanged = pages.length := by
  obtain ⟨-, -, -, hwrites⟩ := writes_of_write h
  rw [hwrites.total]
  exact Nat.zero_add _

end Publish

/-! ## §2 What happens in a run -/

/-- The three kinds of run. -/
inductive Task where
  | render
  | generate
  | check
  deriving DecidableEq, Repr

namespace Generator

/-- A run gets as far as a site: it reads the inputs, is not cancelled meanwhile, parses the scripts and
    renders the pages. -/
structure Renders (g : Generator) (cancelled : Bool) (fs : FileSystem) (inputs : Inputs) (t : Tree)
    (site : Site) : Prop where
  read : load g.config fs = .ok inputs
  going : cancelled = false
  parsed : (parseScripts inputs.scripts).1 = .ok t
  rendered : Site.build g.convert t inputs.readme inputs.templates g.config.sourceLinkPrefix = .ok site

/-- A run does not get as far as a site, with the phase that it stops in and the error. -/
inductive FailsToRender (g : Generator) (cancelled : Bool) (fs : FileSystem) :
    Status → RunError → Prop where
  | unread {e : RunError} (hload : load g.config fs = .error e) :
      FailsToRender g cancelled fs .reading e
  | cancelled {inputs : Inputs} (hload : load g.config fs = .ok inputs) (hcancelled : cancelled = true) :
      FailsToRender g cancelled fs .reading .cancelled
  | unparsed {inputs : Inputs} {cause : SyntaxError} (hload : load g.config fs = .ok inputs)
      (hgoing : cancelled = false) (hparse : (parseScripts inputs.scripts).1 = .error cause) :
      FailsToRender g cancelled fs .parsing (.parsing cause)
  | unrendered {inputs : Inputs} {t : Tree} {cause : SiteError} (hload : load g.config fs = .ok inputs)
      (hgoing : cancelled = false) (hparse : (parseScripts inputs.scripts).1 = .ok t)
      (hbuild : Site.build g.convert t inputs.readme inputs.templates g.config.sourceLinkPrefix =
        .error cause) :
      FailsToRender g cancelled fs .rendering (.rendering cause)

/-- A run of a kind stops in a phase with an error.  Only a generating run writes its site, and only a
    checking run compares it. -/
inductive Stops (g : Generator) (task : Task) (cancelled : Bool) (fs : FileSystem) :
    Status → RunError → Prop where
  | unrendered {phase : Status} {e : RunError} (h : g.FailsToRender cancelled fs phase e) :
      Stops g task cancelled fs phase e
  | unwritten {inputs : Inputs} {t : Tree} {site : Site} {cause : Publish.Error}
      (hrenders : g.Renders cancelled fs inputs t site) (htask : task = .generate)
      (hwrite : (Publish.write cancelled g.config.output site.pages fs).2.2 = .error cause) :
      Stops g task cancelled fs .writing (.publishing cause)
  | differing {inputs : Inputs} {t : Tree} {site : Site} {cause : Publish.Error}
      (hrenders : g.Renders cancelled fs inputs t site) (htask : task = .check)
      (hcheck : Publish.check g.config.output fs site.pages = .error cause) :
      Stops g task cancelled fs .checking (.publishing cause)

variable {g : Generator} {task : Task} {cancelled : Bool} {fs : FileSystem} {inputs inputs' : Inputs}
  {t t' : Tree} {site site' : Site} {phase phase' : Status} {e e' : RunError}

theorem Renders.unique (h : g.Renders cancelled fs inputs t site)
    (h' : g.Renders cancelled fs inputs' t' site') : site = site' := by
  obtain rfl : inputs = inputs' := Except.ok.inj (h.read.symm.trans h'.read)
  obtain rfl : t = t' := Except.ok.inj (h.parsed.symm.trans h'.parsed)
  exact Except.ok.inj (h.rendered.symm.trans h'.rendered)

/-- A run gets as far as a site, or it fails to. -/
theorem renders_or_fails (g : Generator) (cancelled : Bool) (fs : FileSystem) :
    (∃ inputs t site, g.Renders cancelled fs inputs t site) ∨
      ∃ phase e, g.FailsToRender cancelled fs phase e := by
  cases hload : load g.config fs with
  | error e => exact Or.inr ⟨_, _, .unread hload⟩
  | ok inputs =>
    cases hcancelled : cancelled with
    | true => exact Or.inr ⟨_, _, .cancelled hload rfl⟩
    | false =>
      cases hparse : (parseScripts inputs.scripts).1 with
      | error cause => exact Or.inr ⟨_, _, .unparsed hload rfl hparse⟩
      | ok t =>
        cases hbuild : Site.build g.convert t inputs.readme inputs.templates
          g.config.sourceLinkPrefix with
        | error cause => exact Or.inr ⟨_, _, .unrendered hload rfl hparse hbuild⟩
        | ok site => exact Or.inl ⟨inputs, t, site, hload, rfl, hparse, hbuild⟩

/-- The result of rendering is that of the site which the run gets as far as. -/
theorem rendering_eq_ok_iff {r : Result} :
    g.rendering cancelled fs = .ok r ↔
      ∃ inputs t site, g.Renders cancelled fs inputs t site ∧ r = g.result t site := by
  constructor
  · intro h
    obtain ⟨inputs, hload⟩ := exists_load_of_rendering h
    obtain rfl := not_cancelled_of_rendering h
    simp only [rendering, hload, Bool.false_eq_true, if_false] at h
    cases hparse : (parseScripts inputs.scripts).1 with
    | error cause => simp [hparse] at h
    | ok t =>
      cases hbuild : Site.build g.convert t inputs.readme inputs.templates
        g.config.sourceLinkPrefix with
      | error cause => simp [hparse, hbuild] at h
      | ok site =>
        simp only [hparse, hbuild] at h
        exact ⟨inputs, t, site, ⟨hload, rfl, hparse, hbuild⟩, (Except.ok.inj h).symm⟩
  · rintro ⟨inputs, t, site, hrenders, rfl⟩
    simp [rendering, hrenders.read, hrenders.going, hrenders.parsed, hrenders.rendered]

/-! ## §3 What rendering leaves in the build -/

/-- `b'` is the build `b` later in its run: it may differ in the status, the phase and the number of
    scripts. -/
structure Later (b b' : Build) : Prop where
  number : b'.number = b.number
  result : b'.result = b.result
  progress : b'.progress = { b.progress with scripts := b'.progress.scripts }

/-- Rendering that fails ends the build in its phase with its error. -/
theorem FailsToRender.renderSite (h : g.FailsToRender cancelled fs phase e) (b : Build) :
    ∃ b' records, Later b b' ∧
      g.renderSite cancelled fs b = (b'.fail phase e.message, records, .error e) := by
  cases h with
  | unread hload =>
    refine ⟨b.enter .reading, [failure .reading e], ⟨rfl, rfl, rfl⟩, ?_⟩
    simp only [Generator.renderSite, hload]
    rfl
  | @cancelled inputs hload hcancelled =>
    refine ⟨{ b.enter .reading with progress := { b.progress with scripts := inputs.scripts.length } },
      [failure .reading .cancelled], ⟨rfl, rfl, rfl⟩, ?_⟩
    simp only [Generator.renderSite, hload, hcancelled, if_true]
    rfl
  | @unparsed inputs cause hload hgoing hparse =>
    refine ⟨{ b.enter .parsing with progress := { b.progress with scripts := inputs.scripts.length } },
      (parseScripts inputs.scripts).2 ++ [failure .parsing (.parsing cause)], ⟨rfl, rfl, rfl⟩, ?_⟩
    simp only [Generator.renderSite, hload, hgoing, Bool.false_eq_true, if_false, renderInputs]
    rcases hparsed : parseScripts inputs.scripts with ⟨outcome, records⟩
    obtain rfl : outcome = .error cause := by rw [← hparse, hparsed]
    rfl
  | @unrendered inputs t cause hload hgoing hparse hbuild =>
    refine ⟨{ b.enter .rendering with progress := { b.progress with scripts := inputs.scripts.length } },
      (parseScripts inputs.scripts).2 ++ [parsedScripts inputs t] ++
        [failure .rendering (.rendering cause)], ⟨rfl, rfl, rfl⟩, ?_⟩
    simp only [Generator.renderSite, hload, hgoing, Bool.false_eq_true, if_false, renderInputs]
    rcases hparsed : parseScripts inputs.scripts with ⟨outcome, records⟩
    obtain rfl : outcome = .ok t := by rw [← hparse, hparsed]
    simp only [hbuild]
    rfl

/-- Rendering that succeeds keeps the result in the build. -/
theorem Renders.renderSite (h : g.Renders cancelled fs inputs t site) (b : Build) :
    ∃ b' records, Later b b' ∧ g.renderSite cancelled fs b =
      (b'.keep (g.result t site), records, .ok (g.result t site)) := by
  refine ⟨{ b.enter .rendering with progress := { b.progress with scripts := inputs.scripts.length } },
    (parseScripts inputs.scripts).2 ++ [parsedScripts inputs t] ++
      (g.result t site).broken.map brokenLink, ⟨rfl, rfl, rfl⟩, ?_⟩
  simp only [Generator.renderSite, h.read, h.going, Bool.false_eq_true, if_false, renderInputs]
  rcases hparsed : parseScripts inputs.scripts with ⟨outcome, records⟩
  obtain rfl : outcome = .ok t := by rw [← h.parsed, hparsed]
  simp only [h.rendered]
  rfl

theorem FailsToRender.not_renders (h : g.FailsToRender cancelled fs phase e) :
    ¬ g.Renders cancelled fs inputs t site := by
  intro hrenders
  obtain ⟨b, records, -, hfailed⟩ := h.renderSite (.start 0)
  obtain ⟨b', records', -, hrendered⟩ := hrenders.renderSite (.start 0)
  rw [hfailed] at hrendered
  simp at hrendered

theorem FailsToRender.unique (h : g.FailsToRender cancelled fs phase e)
    (h' : g.FailsToRender cancelled fs phase' e') : phase = phase' ∧ e = e' := by
  obtain ⟨b, records, -, hfailed⟩ := h.renderSite (.start 0)
  obtain ⟨b', records', -, hfailed'⟩ := h'.renderSite (.start 0)
  rw [hfailed] at hfailed'
  simp only [Prod.mk.injEq, Except.error.injEq] at hfailed'
  obtain ⟨hbuild, -, herror⟩ := hfailed'
  -- the failed build has the name of the phase
  have hname : phase.name = phase'.name := congrArg Build.phase hbuild
  exact ⟨by cases phase; cases phase'; exact congrArg Status.mk hname, herror⟩

/-- A run stops in one phase with one error. -/
theorem Stops.unique (h : g.Stops task cancelled fs phase e)
    (h' : g.Stops task cancelled fs phase' e') : phase = phase' ∧ e = e' := by
  cases h with
  | unrendered h =>
    cases h' with
    | unrendered h' => exact h.unique h'
    | unwritten hrenders => exact absurd hrenders h.not_renders
    | differing hrenders => exact absurd hrenders h.not_renders
  | unwritten hrenders htask hwrite =>
    cases h' with
    | unrendered h' => exact absurd hrenders h'.not_renders
    | unwritten hrenders' htask' hwrite' =>
      obtain rfl := hrenders.unique hrenders'
      exact ⟨rfl, congrArg RunError.publishing (Except.error.inj (hwrite.symm.trans hwrite'))⟩
    | differing hrenders' htask' => simp [htask] at htask'
  | differing hrenders htask hcheck =>
    cases h' with
    | unrendered h' => exact absurd hrenders h'.not_renders
    | unwritten hrenders' htask' => simp [htask] at htask'
    | differing hrenders' htask' hcheck' =>
      obtain rfl := hrenders.unique hrenders'
      exact ⟨rfl, congrArg RunError.publishing (Except.error.inj (hcheck.symm.trans hcheck'))⟩

/-! ## §4 True records -/

/-- A build holds the result of rendering, if there is one, and counts what is in it. -/
structure HoldsResult (g : Generator) (cancelled : Bool) (fs : FileSystem) (b : Build) : Prop where
  result_iff : b.result.isSome = true ↔ ∃ inputs t site, g.Renders cancelled fs inputs t site
  digest_iff : b.digest ≠ [] ↔ b.result.isSome = true
  counts : ∀ r, b.result = some r → ∃ inputs t site, g.Renders cancelled fs inputs t site ∧
    r.tree = t ∧ r.site = site ∧ b.digest = digest site.pages ∧
    b.progress.entities = t.size ∧
    b.progress.pages = 1 + b.progress.entities + inputs.templates.assets.length ∧
    b.progress.brokenLinks = r.broken.length ∧
    (g.config.verifyLinks = false → b.progress.brokenLinks = 0)

/-- What a run leaves is true to what happened in it. -/
structure Truthful (g : Generator) (task : Task) (cancelled : Bool) (fs : FileSystem) (ran : Ran) :
    Prop extends HoldsResult g cancelled fs ran.build where
  ends_well_iff : ran.error = none ↔ ¬ ∃ phase e, g.Stops task cancelled fs phase e
  completed_iff : ran.error = none ↔ ran.build.status = .completed
  errors_iff : ran.error = none ↔ ran.build.progress.errors = []
  stopped : ∀ phase e, g.Stops task cancelled fs phase e → ran.error = some e ∧
    ran.build.status = .failed ∧ ran.build.phase = phase.name ∧
    ran.build.progress.errors = [e.message]
  filed : if task = .generate ∧ ran.error = none then
      ran.build.progress.written + ran.build.progress.unchanged = ran.build.progress.pages
    else ran.build.progress.written = 0 ∧ ran.build.progress.unchanged = 0

/-- A build of which nothing is written yet, and that has met no error. -/
structure Unended (b : Build) : Prop where
  errors : b.progress.errors = []
  written : b.progress.written = 0
  unchanged : b.progress.unchanged = 0

theorem Later.unended {number : Int} {b : Build} (h : Later (.start number) b) : Unended b := by
  constructor <;> rw [h.progress] <;> rfl

/-- Only the result and what is counted of it matters. -/
theorem HoldsResult.congr {b b' : Build} (h : g.HoldsResult cancelled fs b)
    (hresult : b'.result = b.result) (hentities : b'.progress.entities = b.progress.entities)
    (hpages : b'.progress.pages = b.progress.pages)
    (hlinks : b'.progress.brokenLinks = b.progress.brokenLinks) : g.HoldsResult cancelled fs b' := by
  have hdigest : b'.digest = b.digest := by rw [Build.digest, Build.digest, hresult]
  constructor
  · rw [hresult]
    exact h.result_iff
  · rw [hdigest, hresult]
    exact h.digest_iff
  · rw [hresult, hdigest, hentities, hpages, hlinks]
    exact h.counts

/-- A build of a run that fails to render holds no result. -/
theorem FailsToRender.holdsResult (h : g.FailsToRender cancelled fs phase e) {b : Build}
    (hresult : b.result = none) : g.HoldsResult cancelled fs b := by
  constructor
  · rw [hresult]
    constructor
    · intro hnone
      simp at hnone
    · rintro ⟨inputs, t, site, hrenders⟩
      exact absurd hrenders h.not_renders
  · simp [Build.digest, hresult]
  · intro r hr
    simp [hresult] at hr

/-- A build that keeps the result of rendering holds it. -/
theorem Renders.holdsResult (h : g.Renders cancelled fs inputs t site) (b : Build) :
    g.HoldsResult cancelled fs (b.keep (g.result t site)) := by
  have hdigest : digest site.pages ≠ [] := by
    intro hnil
    have hlength := length_digest site.pages
    simp [hnil] at hlength
  have hpages := Site.length_pages (parseScripts_nested h.parsed).invariant h.rendered
  constructor
  · exact ⟨fun _ => ⟨inputs, t, site, h⟩, fun _ => rfl⟩
  · exact ⟨fun _ => rfl, fun _ => hdigest⟩
  · intro r hr
    obtain rfl : g.result t site = r := Option.some.inj hr
    refine ⟨inputs, t, site, h, rfl, rfl, rfl, rfl, ?_, rfl, ?_⟩
    · show (site.pages.length : Int) = 1 + (t.size : Int) + inputs.templates.assets.length
      rw [hpages]
      push_cast
      rfl
    · intro hverify
      show ((g.result t site).broken.length : Int) = 0
      simp [result, hverify]

/-- A run that stops leaves a true record when it ends its build in that phase with that error. -/
theorem Stops.truthful (h : g.Stops task cancelled fs phase e) {b : Build} (hb : Unended b)
    (hholds : g.HoldsResult cancelled fs b) (records : List Log.Record) :
    g.Truthful task cancelled fs (.of (b.fail phase e.message) records (some e)) := by
  have herrors : (b.fail phase e.message).progress.errors = [e.message] := by
    show b.progress.errors ++ [e.message] = [e.message]
    rw [hb.errors, List.nil_append]
  have herror : (Ran.of (b.fail phase e.message) records (some e)).error ≠ none := by
    simp [Ran.of]
  refine ⟨hholds.congr rfl rfl rfl rfl, ?_, ?_, ?_, ?_, ?_⟩
  · exact iff_of_false herror (not_not_intro ⟨phase, e, h⟩)
  · apply iff_of_false herror
    show ¬ Status.failed = Status.completed
    decide
  · apply iff_of_false herror
    show ¬ (b.fail phase e.message).progress.errors = []
    simp [herrors]
  · intro phase' e' h'
    obtain ⟨rfl, rfl⟩ := h.unique h'
    exact ⟨rfl, rfl, rfl, herrors⟩
  · rw [if_neg fun hwell => herror hwell.2]
    exact ⟨hb.written, hb.unchanged⟩

/-- A run that does not stop leaves a true record when it completes its build, with the pages counted
    that it has written. -/
theorem truthful_of_completed (h : ¬ ∃ phase e, g.Stops task cancelled fs phase e) {b : Build}
    (hholds : g.HoldsResult cancelled fs b) (herrors : b.progress.errors = [])
    {ending : String} {records : List Log.Record}
    (hfiled : if task = .generate then
      b.progress.written + b.progress.unchanged = b.progress.pages
      else b.progress.written = 0 ∧ b.progress.unchanged = 0) :
    g.Truthful task cancelled fs (.of (b.complete ending) records none) := by
  refine ⟨hholds.congr rfl rfl rfl rfl, ?_, ?_, ?_, ?_, ?_⟩
  · exact iff_of_true rfl h
  · exact iff_of_true rfl rfl
  · exact iff_of_true rfl herrors
  · intro phase e hstops
    exact absurd ⟨phase, e, hstops⟩ h
  · simp only [Ran.of, and_true]
    exact hfiled

/-! ## §5 One run -/

/-- A run of any kind: the generator and the files after it, and what it leaves. -/
def perform (g : Generator) (task : Task) (cancelled : Bool) (fs : FileSystem) :
    Generator × FileSystem × Ran :=
  match task with
  | .render =>
    let (g, ran) := g.render cancelled fs
    (g, fs, ran)
  | .generate => g.generate cancelled fs
  | .check =>
    let (g, ran) := g.check cancelled fs
    (g, fs, ran)

/-- A run that fails to render ends there, whatever its kind. -/
theorem perform_of_fails {b : Build} {records : List Log.Record}
    (h : g.renderSite cancelled fs (.start (g.runs + 1)) = (b, records, .error e)) :
    g.perform task cancelled fs = (g.next.1, fs, .of b records (some e)) := by
  have hnext : g.next.1.renderSite cancelled fs g.next.2 = (b, records, .error e) := h
  cases task with
  | render => simp only [perform, render, renderStarted, hnext]
  | generate => simp only [perform, generate, hnext]
  | check => simp only [perform, check, hnext]

/-- Every run takes the next number. -/
theorem perform_generator (g : Generator) (task : Task) (cancelled : Bool) (fs : FileSystem) :
    (g.perform task cancelled fs).1 = { g with runs := g.runs + 1 } := by
  cases task with
  | render => rfl
  | generate =>
    simp only [perform, generate]
    split
    · rfl
    · split <;> rfl
  | check =>
    simp only [perform, check]
    split
    · rfl
    · split <;> rfl

/-- A run that has rendered its site can stop only while it writes or compares it. -/
theorem Renders.stops (h : g.Renders cancelled fs inputs t site)
    (hstops : g.Stops task cancelled fs phase e) :
    task = .generate ∧ (∃ cause, (Publish.write cancelled g.config.output site.pages fs).2.2 =
        .error cause) ∨
      task = .check ∧ ∃ cause, Publish.check g.config.output fs site.pages = .error cause := by
  cases hstops with
  | unrendered hfails => exact absurd h hfails.not_renders
  | unwritten hrenders htask hwrite =>
    obtain rfl := h.unique hrenders
    exact Or.inl ⟨htask, _, hwrite⟩
  | differing hrenders htask hcheck =>
    obtain rfl := h.unique hrenders
    exact Or.inr ⟨htask, _, hcheck⟩

section Rendered

variable {b : Build} {records : List Log.Record} (h : g.Renders cancelled fs inputs t site)
  (hb : Unended b)
include h hb

/-- What a rendering run leaves after it has rendered its site. -/
theorem render_truthful : g.Truthful .render cancelled fs
    (.of ((b.keep (g.result t site)).complete "rendered") records none) := by
  refine truthful_of_completed ?_ (h.holdsResult b) hb.errors ?_
  · rintro ⟨phase, e, hstops⟩
    simpa using h.stops hstops
  · rw [if_neg (by decide)]
    exact ⟨hb.written, hb.unchanged⟩

/-- What a generating run leaves after it has written its site. -/
theorem generate_truthful {stats : Publish.Stats}
    (hwrite : (Publish.write cancelled g.config.output site.pages fs).2.2 = .ok stats) :
    let kept := (b.keep (g.result t site)).enter .writing
    g.Truthful .generate cancelled fs (.of (Build.complete { kept with progress := { kept.progress with
      written := stats.written, unchanged := stats.unchanged } } "done") records none) := by
  intro kept
  have hholds : g.HoldsResult cancelled fs { kept with progress := { kept.progress with
      written := stats.written, unchanged := stats.unchanged } } :=
    (h.holdsResult b).congr rfl rfl rfl rfl
  refine truthful_of_completed ?_ hholds hb.errors ?_
  · rintro ⟨phase, e, hstops⟩
    simpa [hwrite] using h.stops hstops
  · rw [if_pos rfl]
    show (stats.written : Int) + stats.unchanged = site.pages.length
    exact_mod_cast Publish.write_total hwrite

/-- What a checking run leaves after it has found its site up to date. -/
theorem check_truthful (hcheck : Publish.check g.config.output fs site.pages = .ok ()) :
    g.Truthful .check cancelled fs
      (.of (((b.keep (g.result t site)).enter .checking).complete "up to date") records none) := by
  have hholds : g.HoldsResult cancelled fs ((b.keep (g.result t site)).enter .checking) :=
    (h.holdsResult b).congr rfl rfl rfl rfl
  refine truthful_of_completed ?_ hholds hb.errors ?_
  · rintro ⟨phase, e, hstops⟩
    simpa [hcheck] using h.stops hstops
  · rw [if_neg (by decide)]
    exact ⟨hb.written, hb.unchanged⟩

/-- What a run leaves that stops after it has rendered its site. -/
theorem stopped_truthful (hstops : g.Stops task cancelled fs phase e) :
    g.Truthful task cancelled fs
      (.of (((b.keep (g.result t site)).enter phase).fail phase e.message) records (some e)) :=
  have hunended : Unended ((b.keep (g.result t site)).enter phase) :=
    ⟨hb.errors, hb.written, hb.unchanged⟩
  hstops.truthful hunended ((h.holdsResult b).congr rfl rfl rfl rfl) records

end Rendered

/-- A run that renders its site has the next number and leaves a true record. -/
theorem Renders.perform_truthful (h : g.Renders cancelled fs inputs t site) (task : Task) :
    (g.perform task cancelled fs).2.2.build.number = g.runs + 1 ∧
      g.Truthful task cancelled fs (g.perform task cancelled fs).2.2 := by
  obtain ⟨b, records, hlater, hsite⟩ := h.renderSite (.start (g.runs + 1))
  have hnext : g.next.1.renderSite cancelled fs g.next.2 =
    (b.keep (g.result t site), records, .ok (g.result t site)) := hsite
  have hconfig : g.next.1.config = g.config := rfl
  have hpages : (g.result t site).site.pages = site.pages := rfl
  cases task with
  | render =>
    simp only [perform, render, renderStarted, hnext]
    exact ⟨hlater.number, render_truthful h hlater.unended⟩
  | generate =>
    simp only [perform, generate, hnext, hconfig, hpages]
    rcases hwrite : Publish.write cancelled g.config.output site.pages fs with
      ⟨fs', written, cause | stats⟩
    · have hstops : g.Stops .generate cancelled fs .writing (.publishing cause) :=
        .unwritten h rfl (by rw [hwrite])
      exact ⟨hlater.number, stopped_truthful h hlater.unended hstops⟩
    · exact ⟨hlater.number, generate_truthful h hlater.unended (by rw [hwrite])⟩
  | check =>
    simp only [perform, check, hnext, hconfig, hpages]
    rcases hcheck : Publish.check g.config.output fs site.pages with cause | ⟨⟩
    · have hstops : g.Stops .check cancelled fs .checking (.publishing cause) :=
        .differing h rfl hcheck
      exact ⟨hlater.number, stopped_truthful h hlater.unended hstops⟩
    · exact ⟨hlater.number, check_truthful h hlater.unended hcheck⟩

/-- One run of any kind has the next number and leaves a true record. -/
theorem perform_truthful (g : Generator) (task : Task) (cancelled : Bool) (fs : FileSystem) :
    (g.perform task cancelled fs).2.2.build.number = g.runs + 1 ∧
      g.Truthful task cancelled fs (g.perform task cancelled fs).2.2 := by
  rcases g.renders_or_fails cancelled fs with ⟨inputs, t, site, hrenders⟩ | ⟨phase, e, hfails⟩
  · exact hrenders.perform_truthful task
  · obtain ⟨b, records, hlater, hsite⟩ := hfails.renderSite (.start (g.runs + 1))
    rw [perform_of_fails hsite]
    refine ⟨hlater.number, ?_⟩
    exact (Stops.unrendered hfails).truthful hlater.unended (hfails.holdsResult hlater.result) records

/-! ## §6 Sequences of runs -/

/-- A run that is asked for: its kind, whether it is cancelled, and what becomes of the files before
    it. -/
structure Order where
  task : Task
  cancelled : Bool
  edit : FileSystem → FileSystem

/-- A run of a sequence: what was asked for, the generator and the files that it started with, and what
    it left. -/
structure Performed where
  order : Order
  generator : Generator
  files : FileSystem
  ran : Ran

/-- The runs of a sequence, each with the generator and the files that the one before it left. -/
def history (g : Generator) (fs : FileSystem) : List Order → List Performed
  | [] => []
  | order :: rest =>
    let files := order.edit fs
    let done := g.perform order.task order.cancelled files
    ⟨order, g, files, done.2.2⟩ :: history done.1 done.2.1 rest

/-- **Builds record what happened**: in every sequence of rendering, generating and checking runs, with
    any edits of the files in between, every order is performed, the runs are numbered one after the
    other, and each leaves a record that is true to what happened in it. -/
theorem builds_recorded_truthfully (g : Generator) (fs : FileSystem) (orders : List Order) :
    (g.history fs orders).map Performed.order = orders ∧
      ∀ (n : Nat) (run : Performed), (g.history fs orders)[n]? = some run →
        run.generator = { g with runs := g.runs + n } ∧
        run.ran.build.number = g.runs + n + 1 ∧
        run.generator.Truthful run.order.task run.order.cancelled run.files run.ran := by
  induction orders generalizing g fs with
  | nil => simp [history]
  | cons order rest ih =>
    obtain ⟨hnumber, htruthful⟩ := g.perform_truthful order.task order.cancelled (order.edit fs)
    have hgenerator := g.perform_generator order.task order.cancelled (order.edit fs)
    rcases hperform : g.perform order.task order.cancelled (order.edit fs) with ⟨g', fs', ran⟩
    rw [hperform] at hnumber htruthful hgenerator
    obtain ⟨horders, hruns⟩ := ih g' fs'
    simp only [history, hperform, List.map_cons, horders, true_and]
    intro n run hrun
    cases n with
    | zero =>
      obtain rfl := Option.some.inj hrun
      exact ⟨rfl, by simpa using hnumber, htruthful⟩
    | succ n =>
      -- the rest of the sequence starts with one more run on the count
      obtain rfl : g' = { g with runs := g.runs + 1 } := hgenerator
      obtain ⟨hgenerator', hnumber', htruthful'⟩ := hruns n run hrun
      refine ⟨?_, ?_, htruthful'⟩
      · rw [hgenerator']
        simp only [Nat.add_assoc, Nat.add_comm 1 n]
      · rw [hnumber']
        push_cast
        omega

set_option maxRecDepth 4000 in
/-- A site is generated, then a check finds the script malformed, and then a run is cancelled. -/
theorem generated_then_failing_runs_recorded :
    let fs : FileSystem := ⟨[([bytes "a.js"], .file (bytes "/*?\nclass Foo\n**/")),
      ([bytes "t", bytes "page.html"], .file (bytes "p")),
      ([bytes "t", bytes "look.css"], .file (bytes "c")),
      ([bytes "t", bytes "index.html"], .file (bytes "i")), ([bytes "t"], .directory),
      ([bytes "r"], .file [])], []⟩
    let broken : FileSystem := ⟨[([bytes "a.js"], .file (bytes "/*?\nFoo#x(]) -> X\n**/")),
      ([bytes "t", bytes "page.html"], .file []), ([bytes "t", bytes "index.html"], .file []),
      ([bytes "t"], .directory), ([bytes "r"], .file [])], []⟩
    let g : Generator := ⟨{ Config.empty with
      scripts := [bytes "a.js"], readme := bytes "r", output := bytes "out",
      template := bytes "t" }, .ok, 0⟩
    let orders : List Order := [⟨.generate, false, id⟩, ⟨.check, false, fun _ => broken⟩,
      ⟨.render, true, fun _ => broken⟩]
    (∃ run : Performed, (g.history fs orders)[0]? = some run ∧ run.ran.build.number = 1 ∧
      run.ran.build.status = .completed ∧ run.ran.build.progress.pages = 3 ∧
      run.ran.build.progress.written + run.ran.build.progress.unchanged = 3) ∧
    (∃ run : Performed, (g.history fs orders)[1]? = some run ∧ run.ran.build.number = 2 ∧
      run.ran.build.status = .failed ∧ run.ran.build.phase = bytes "parsing" ∧
      run.ran.build.result = none) ∧
    ∃ run : Performed, (g.history fs orders)[2]? = some run ∧ run.ran.build.number = 3 ∧
      run.ran.build.progress.errors = [bytes "context canceled"] := by
  intro fs broken g orders
  have hload : load g.config fs = .ok ⟨[⟨bytes "a.js", bytes "/*?\nclass Foo\n**/"⟩], [],
      ⟨bytes "i", bytes "p", [(bytes "look.css", bytes "c")]⟩⟩ := by
    unfold load Templates.load FileSystem.names
    simp only [Bytes.mergeSort_key]
    decide
  have hview : ((parseScripts [⟨bytes "a.js", bytes "/*?\nclass Foo\n**/"⟩]).1.toOption.map fun t =>
      (Site.build .ok t [] ⟨bytes "i", bytes "p", [(bytes "look.css", bytes "c")]⟩
        []).toOption.map Site.pages) =
      some (some [⟨bytes "index.html", bytes "i"⟩, ⟨bytes "Foo.html", bytes "p"⟩,
        ⟨bytes "look.css", bytes "c"⟩]) := by
    unfold Site.build Site.indexPage Site.entityPage Site.assetPages fill
    simp only [Bytes.mergeSort_key]
    decide
  have hbroken : load g.config broken = .ok ⟨[⟨bytes "a.js", bytes "/*?\nFoo#x(]) -> X\n**/"⟩], [],
      ⟨[], [], []⟩⟩ := by
    unfold load Templates.load FileSystem.names
    simp only [Bytes.mergeSort_key]
    decide
  have hmalformed : (parseScripts [⟨bytes "a.js", bytes "/*?\nFoo#x(]) -> X\n**/"⟩]).1 = .error
      ⟨bytes "a.js", 2, bytes "Foo#x(]) -> X", .unbalancedBrackets (bytes "]")⟩ := by decide
  obtain ⟨r, hrendered, hpages⟩ := exists_rendering_of_view hload hview
  obtain ⟨inputs, t, site, hrenders, rfl⟩ := rendering_eq_ok_iff.1 hrendered
  have hwrite : (Publish.write false g.config.output site.pages fs).2.2 = .ok ⟨3, 0⟩ := by
    rw [show site.pages = _ from hpages]
    decide
  have hlength : site.pages.length = 3 := by
    rw [show site.pages = _ from hpages]
    rfl
  -- from here on the values do not matter
  have hbegun : g.runs = 0 := rfl
  clear_value fs broken g
  obtain ⟨-, hruns⟩ := builds_recorded_truthfully g fs orders
  refine ⟨⟨_, rfl, ?_⟩, ⟨_, rfl, ?_⟩, ⟨_, rfl, ?_⟩⟩
  · obtain ⟨-, hnumber, htruthful⟩ := hruns 0 _ rfl
    have hwell := htruthful.ends_well_iff.2 (by
      rintro ⟨phase, e, hstops⟩
      simpa [hwrite] using hrenders.stops hstops)
    have hfiled := htruthful.filed
    rw [if_pos ⟨rfl, hwell⟩] at hfiled
    obtain ⟨r, hr⟩ := Option.isSome_iff_exists.1 (htruthful.result_iff.2 ⟨inputs, t, site, hrenders⟩)
    obtain ⟨inputs', t', site', hrenders', -, -, -, hentities, hcount, -⟩ := htruthful.counts r hr
    obtain rfl := hrenders.unique hrenders'
    have hthree := Site.length_pages (parseScripts_nested hrenders'.parsed).invariant hrenders'.rendered
    rw [hlength] at hthree
    rw [hentities] at hcount
    have hpages' : (1 : Int) + t'.size + inputs'.templates.assets.length = 3 := by omega
    have hall := hcount.trans hpages'
    exact ⟨by simpa [hbegun] using hnumber, htruthful.completed_iff.1 hwell, hall, hfiled.trans hall⟩
  · obtain ⟨hgenerator, hnumber, htruthful⟩ := hruns 1 _ rfl
    have hfails : FailsToRender { g with runs := g.runs + 1 } false broken .parsing (.parsing
        ⟨bytes "a.js", 2, bytes "Foo#x(]) -> X", .unbalancedBrackets (bytes "]")⟩) :=
      .unparsed hbroken rfl hmalformed
    rw [← hgenerator] at hfails
    obtain ⟨-, hfailed, hphase, -⟩ := htruthful.stopped _ _ (.unrendered hfails)
    have hnone := mt htruthful.result_iff.1 (by
      rintro ⟨inputs', t', site', hrenders'⟩
      exact hfails.not_renders hrenders')
    exact ⟨by simpa [hbegun] using hnumber, hfailed, hphase, by simpa using hnone⟩
  · obtain ⟨hgenerator, hnumber, htruthful⟩ := hruns 2 _ rfl
    have hfails : FailsToRender { g with runs := g.runs + 2 } true broken .reading .cancelled :=
      .cancelled hbroken rfl
    rw [← hgenerator] at hfails
    obtain ⟨-, -, -, herrors⟩ := htruthful.stopped _ _ (.unrendered hfails)
    exact ⟨by simpa [hbegun] using hnumber, herrors⟩

end Generator

end DocPages
