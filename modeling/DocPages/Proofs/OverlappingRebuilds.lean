import Mathlib.Data.Int.Order.Basic
import Mathlib.Logic.Relation
import DocPages.Proofs.LastGoodSite

/-!
# Overlapping Rebuilds

A rebuild takes a number, renders the files as they are at that moment, and commits what came of it.
Only the last step waits for the server, so rebuilds that overlap may commit in any order.  A commit
does not compare numbers: the site that is published is the one that was committed last, and a rebuild
that was overtaken still replaces the newer site.

An older site returns in this way only through a rebuild that was in flight already.  A rebuild that
starts later has a larger number than any build that is published.

## Main results

- `Traffic`, `Traffic.Step`: a server with its rebuilds in flight, and what can happen next
- `Traffic.rebuild_steps`: a rebuild that nothing comes between is three steps
- `Traffic.older_site_returns_iff`: when the published number can still fall
- `Traffic.overtaken_rebuild_replaces_newer_site`: a schedule that loses an edit
-/

namespace DocPages

/-! ## §1 Rebuilds in flight -/

/-- A rebuild in flight: it has its number, or it has rendered and waits to commit. -/
inductive Flight where
  | numbered (b : Build)
  | rendered (ran : Generator.Ran)

namespace Flight

/-- The number that a rebuild has taken. -/
def number : Flight → Int
  | .numbered b => b.number
  | .rendered ran => ran.build.number

/-- A rebuild may still succeed: it has rendered without an error, or there are files that its generator
    can render. -/
def MaySucceed (g : Generator) : Flight → Prop
  | .numbered _ => ∃ fs inputs t site, g.Renders false fs inputs t site
  | .rendered ran => ran.error = none

end Flight

/-- A server with its generator, the files, and the rebuilds in flight. -/
structure Traffic where
  generator : Generator
  files : FileSystem
  server : Server
  flights : List Flight

namespace Traffic

/-- A server that has built nothing yet. -/
def start (g : Generator) (fs : FileSystem) : Traffic := ⟨g, fs, .idle, []⟩

/-- The number of the build that is published. -/
def number? (t : Traffic) : Option Int := t.server.published.map Build.number

/-- What can happen next: the files are edited, a rebuild takes the next number, a rebuild renders the
    files as they are, or a rebuild commits. -/
inductive Step : Traffic → Traffic → Prop where
  | edit {t : Traffic} (files : FileSystem) : Step t { t with files }
  | begin {t : Traffic} : Step t { t with
      generator := t.generator.next.1
      flights := t.flights ++ [.numbered t.generator.next.2] }
  | render {t : Traffic} {before after : List Flight} {b : Build} (cancelled : Bool)
      (h : t.flights = before ++ .numbered b :: after) : Step t { t with
        flights := before ++ .rendered (t.generator.renderStarted cancelled t.files b) :: after }
  | commit {t : Traffic} {before after : List Flight} {ran : Generator.Ran}
      (h : t.flights = before ++ .rendered ran :: after) : Step t { t with
        server := (t.server.commit (.ofRan ran)).1
        flights := before ++ after }

/-- What can happen, step after step. -/
def Reaches : Traffic → Traffic → Prop := Relation.ReflTransGen Step

/-- A rebuild that nothing comes between is three steps, and leaves the other rebuilds in flight. -/
theorem rebuild_steps (t : Traffic) (cancelled : Bool) :
    let done := t.server.rebuild Generator.renderer ⟨t.generator, t.files, cancelled⟩
    t.Reaches { t with generator := done.2.1.generator, server := done.1 } := by
  intro done
  have hbegin : Step t _ := .begin
  have hrender := Step.render cancelled (t := { t with
    generator := t.generator.next.1, flights := t.flights ++ [.numbered t.generator.next.2] }) rfl
  have hcommit := Step.commit (t := { t with
    generator := t.generator.next.1
    flights := t.flights ++ [.rendered
      (t.generator.next.1.renderStarted cancelled t.files t.generator.next.2)] }) rfl
  rw [List.append_nil] at hcommit
  exact .tail (.tail (.single hbegin) hrender) hcommit

end Traffic

/-! ## §2 One step -/

/-- A commit publishes its build when the run came without an error, and else changes nothing
    published. -/
theorem Server.commit_ofRan_published (s : Server) (ran : Generator.Ran) :
    (s.commit (.ofRan ran)).1.published = if ran.error = none then some ran.build else s.published := by
  cases herror : ran.error <;> simp [Server.commit, Attempt.ofRan, herror]

namespace Generator

variable {g : Generator} {cancelled : Bool} {fs : FileSystem}

theorem renderStarted_number (g : Generator) (cancelled : Bool) (fs : FileSystem) (b : Build) :
    (g.renderStarted cancelled fs b).build.number = b.number := by
  rcases g.renders_or_fails cancelled fs with ⟨inputs, t, site, hrenders⟩ | ⟨phase, e, hfails⟩
  · exact (hrenders.renderStarted b).2.1
  · exact (hfails.renderStarted b).2

/-- A started run that ends well has rendered its files. -/
theorem renders_of_renderStarted {b : Build} (h : (g.renderStarted cancelled fs b).error = none) :
    ∃ inputs t site, g.Renders false fs inputs t site := by
  rcases g.renders_or_fails cancelled fs with ⟨inputs, t, site, hrenders⟩ | ⟨phase, e, hfails⟩
  · exact ⟨inputs, t, site, hrenders.read, rfl, hrenders.parsed, hrenders.rendered⟩
  · rw [(hfails.renderStarted b).1] at h
    contradiction

end Generator

namespace Traffic

variable {base t t' : Traffic}

namespace Step

theorem generator (h : Step t t') :
    ∃ runs, t.generator.runs ≤ runs ∧ t'.generator = { t.generator with runs } := by
  cases h with
  | begin => exact ⟨t.generator.runs + 1, Nat.le_succ _, rfl⟩
  | edit files => exact ⟨_, le_rfl, rfl⟩
  | render cancelled h => exact ⟨_, le_rfl, rfl⟩
  | commit h => exact ⟨_, le_rfl, rfl⟩

/-- A rebuild in flight was so before, has just taken the next number, or has just rendered. -/
theorem mem_flights (h : Step t t') {f : Flight} (hf : f ∈ t'.flights) :
    f ∈ t.flights ∨
      (f.number = t.generator.runs + 1 ∧ t'.generator.runs = t.generator.runs + 1) ∨
      ∃ cancelled b, .numbered b ∈ t.flights ∧
        f = .rendered (t.generator.renderStarted cancelled t.files b) := by
  cases h with
  | edit files => exact .inl hf
  | begin =>
    rcases List.mem_append.1 hf with hf | hf
    · exact .inl hf
    · obtain rfl := List.mem_singleton.1 hf
      exact .inr (.inl ⟨rfl, rfl⟩)
  | @render before after b cancelled h =>
    rcases List.mem_append.1 hf with hf | hf
    · exact .inl (h ▸ List.mem_append_left _ hf)
    · rcases List.mem_cons.1 hf with rfl | hf
      · exact .inr (.inr ⟨cancelled, b, by simp [h], rfl⟩)
      · exact .inl (h ▸ List.mem_append_right _ (List.mem_cons_of_mem _ hf))
  | commit h =>
    rcases List.mem_append.1 hf with hf | hf
    · exact .inl (h ▸ List.mem_append_left _ hf)
    · exact .inl (h ▸ List.mem_append_right _ (List.mem_cons_of_mem _ hf))

/-- The published build is as before, or of a rebuild in flight that had rendered without an error. -/
theorem number? (h : Step t t') :
    t'.number? = t.number? ∨
      ∃ ran, .rendered ran ∈ t.flights ∧ ran.error = none ∧ t'.number? = some ran.build.number := by
  cases h with
  | edit files => exact .inl rfl
  | begin => exact .inl rfl
  | render cancelled h => exact .inl rfl
  | @commit before after ran h =>
    simp only [Traffic.number?, Server.commit_ofRan_published]
    by_cases herror : ran.error = none
    · exact .inr ⟨ran, by simp [h], herror, by simp [herror]⟩
    · exact .inl (by simp [herror])

end Step

/-! ## §3 Step after step -/

/-- Every number in use has been taken from the generator. -/
structure Numbered (t : Traffic) : Prop where
  flights : ∀ f ∈ t.flights, f.number ≤ t.generator.runs
  published : ∀ n, t.number? = some n → n ≤ t.generator.runs

theorem start_numbered (g : Generator) (fs : FileSystem) : (start g fs).Numbered :=
  ⟨by simp [start], by simp [start, number?, Server.idle]⟩

theorem Numbered.step (h : t.Numbered) (hstep : Step t t') : t'.Numbered := by
  have hruns : (t.generator.runs : Int) ≤ t'.generator.runs := by
    obtain ⟨runs, hle, hgenerator⟩ := hstep.generator
    rw [hgenerator]
    exact_mod_cast hle
  constructor
  · intro f hf
    rcases hstep.mem_flights hf with hf | ⟨hnumber, htaken⟩ | ⟨cancelled, b, hb, rfl⟩
    · exact (h.flights f hf).trans hruns
    · rw [hnumber, htaken]
      push_cast
      rfl
    · show (t.generator.renderStarted cancelled t.files b).build.number ≤ _
      rw [Generator.renderStarted_number]
      exact (h.flights _ hb).trans hruns
  · intro n hn
    rcases hstep.number? with hsame | ⟨ran, hran, -, hnumber⟩
    · exact (h.published n (hsame ▸ hn)).trans hruns
    · obtain rfl : ran.build.number = n := Option.some.inj (hnumber.symm.trans hn)
      exact (h.flights _ hran).trans hruns

theorem Numbered.reaches (h : t.Numbered) (hreaches : t.Reaches t') : t'.Numbered := by
  induction hreaches with
  | refl => exact h
  | tail _ hstep ih => exact ih.step hstep

/-- What has become of a server since an earlier moment.  A rebuild in flight was in flight then, or has
    a number that was not taken then; and the published build is the one of then, or comes from such a
    rebuild. -/
structure Since (base t : Traffic) : Prop where
  generator : ∃ runs, base.generator.runs ≤ runs ∧ t.generator = { base.generator with runs }
  flights : ∀ f ∈ t.flights, base.generator.runs < f.number ∨
    ∃ f₀ ∈ base.flights, f₀.number = f.number ∧
      (f.MaySucceed base.generator → f₀.MaySucceed base.generator)
  published : t.number? = base.number? ∨ ∃ m, t.number? = some m ∧
    (base.generator.runs < m ∨ ∃ f₀ ∈ base.flights, f₀.number = m ∧ f₀.MaySucceed base.generator)

theorem Since.refl (t : Traffic) : Since t t :=
  ⟨⟨_, le_rfl, rfl⟩, fun f hf => .inr ⟨f, hf, rfl, id⟩, .inl rfl⟩

theorem Since.step (h : Since base t) (hstep : Step t t') : Since base t' := by
  obtain ⟨runs, hle, hgenerator⟩ := h.generator
  refine ⟨?_, ?_, ?_⟩
  · obtain ⟨runs', hle', hgenerator'⟩ := hstep.generator
    rw [hgenerator] at hle' hgenerator'
    exact ⟨runs', hle.trans hle', hgenerator'⟩
  · intro f hf
    rcases hstep.mem_flights hf with hf | ⟨hnumber, -⟩ | ⟨cancelled, b, hb, rfl⟩
    · exact h.flights f hf
    · left
      rw [hnumber, hgenerator]
      show (base.generator.runs : Int) < runs + 1
      omega
    · -- it has rendered with the generator of now, which differs from the earlier one only in its
      -- count of runs: files that it could render now, the earlier one could render too
      have hnumber := Generator.renderStarted_number t.generator cancelled t.files b
      have hsucceeds : (t.generator.renderStarted cancelled t.files b).error = none →
          (Flight.numbered b).MaySucceed base.generator := by
        intro herror
        obtain ⟨inputs, tree, site, hrenders⟩ := Generator.renders_of_renderStarted herror
        rw [hgenerator] at hrenders
        exact ⟨t.files, inputs, tree, site, Generator.renders_with_runs.1 hrenders⟩
      rcases h.flights _ hb with hlater | ⟨f₀, hf₀, hf₀number, himp⟩
      · exact .inl (hlater.trans_eq hnumber.symm)
      · exact .inr ⟨f₀, hf₀, hf₀number.trans hnumber.symm, fun herror => himp (hsucceeds herror)⟩
  · rcases hstep.number? with hsame | ⟨ran, hran, herror, hnumber⟩
    · rw [hsame]
      exact h.published
    · refine .inr ⟨ran.build.number, hnumber, ?_⟩
      rcases h.flights _ hran with hlater | ⟨f₀, hf₀, hf₀number, himp⟩
      · exact .inl hlater
      · exact .inr ⟨f₀, hf₀, hf₀number, himp herror⟩

theorem Since.of_reaches (h : base.Reaches t) : Since base t := by
  induction h with
  | refl => exact .refl base
  | tail _ hstep ih => exact ih.step hstep

/-! ## §4 Overtaken rebuilds -/

/-- A rebuild in flight that may succeed can be brought to publish its build. -/
theorem exists_published {f : Flight} (hf : f ∈ t.flights) (hsucceeds : f.MaySucceed t.generator) :
    ∃ t', t.Reaches t' ∧ t'.number? = some f.number := by
  obtain ⟨before, after, hflights⟩ := List.append_of_mem hf
  cases f with
  | rendered ran =>
    have herror : ran.error = none := hsucceeds
    refine ⟨_, .single (.commit hflights), ?_⟩
    simp [number?, Server.commit_ofRan_published, herror, Flight.number]
  | numbered b =>
    -- the files are edited to some that it can render
    obtain ⟨fs, inputs, tree, site, hrenders⟩ := hsucceeds
    obtain ⟨herror, hnumber, -⟩ := hrenders.renderStarted b
    have hedit : Step t { t with files := fs } := .edit fs
    have hrender := Step.render (t := { t with files := fs }) false hflights
    have hcommit := Step.commit (t := { t with
      files := fs
      flights := before ++ .rendered (t.generator.renderStarted false fs b) :: after }) rfl
    refine ⟨_, .tail (.tail (.single hedit) hrender) hcommit, ?_⟩
    simp [number?, Server.commit_ofRan_published, herror, hnumber, Flight.number]

/-- A rebuild that is overtaken: it renders the old files and commits after a rebuild of the new ones. -/
theorem exists_overtaken {g : Generator} {old new : FileSystem} {inputs inputs' : Inputs}
    {tree tree' : Tree} {site site' : Site} (hold : g.Renders false old inputs tree site)
    (hnew : g.Renders false new inputs' tree' site') :
    ∃ t t', (start g old).Reaches t ∧ Step t t' ∧ t'.files = new ∧
      (t.number? = some ((g.runs : Int) + 2) ∧ t.server.current? = some (g.result tree' site')) ∧
      (∃ f ∈ t.flights, f.number = (g.runs : Int) + 1 ∧ f.MaySucceed t.generator) ∧
      t'.number? = some ((g.runs : Int) + 1) ∧ t'.server.current? = some (g.result tree site) := by
  let g₂ := g.next.1.next.1
  let b₁ := g.next.2
  let b₂ := g.next.1.next.2
  let first := g₂.renderStarted false old b₁
  let second := g₂.renderStarted false new b₂
  have hfirst : g₂.Renders false old inputs tree site :=
    Generator.renders_with_runs.2 (Generator.renders_with_runs.2 hold)
  have hsecond : g₂.Renders false new inputs' tree' site' :=
    Generator.renders_with_runs.2 (Generator.renders_with_runs.2 hnew)
  obtain ⟨herror₁, hnumber₁, hresult₁⟩ := hfirst.renderStarted b₁
  obtain ⟨herror₂, hnumber₂, hresult₂⟩ := hsecond.renderStarted b₂
  -- both take their numbers, and the files change between their renderings
  have hbegun₁ : Step (start g old) ⟨g.next.1, old, .idle, [.numbered b₁]⟩ := .begin
  have hbegun₂ : Step ⟨g.next.1, old, .idle, [.numbered b₁]⟩
      ⟨g₂, old, .idle, [.numbered b₁, .numbered b₂]⟩ := .begin
  have hrendered₁ : Step ⟨g₂, old, .idle, [.numbered b₁, .numbered b₂]⟩
      ⟨g₂, old, .idle, [.rendered first, .numbered b₂]⟩ :=
    @Step.render _ [] [.numbered b₂] b₁ false rfl
  have hedited : Step ⟨g₂, old, .idle, [.rendered first, .numbered b₂]⟩
      ⟨g₂, new, .idle, [.rendered first, .numbered b₂]⟩ := .edit new
  have hrendered₂ : Step ⟨g₂, new, .idle, [.rendered first, .numbered b₂]⟩
      ⟨g₂, new, .idle, [.rendered first, .rendered second]⟩ :=
    @Step.render _ [.rendered first] [] b₂ false rfl
  -- the second commits first
  have hcommitted₂ : Step ⟨g₂, new, .idle, [.rendered first, .rendered second]⟩
      ⟨g₂, new, (Server.idle.commit (.ofRan second)).1, [.rendered first]⟩ :=
    @Step.commit _ [.rendered first] [] second rfl
  have hcommitted₁ : Step ⟨g₂, new, (Server.idle.commit (.ofRan second)).1, [.rendered first]⟩
      ⟨g₂, new, ((Server.idle.commit (.ofRan second)).1.commit (.ofRan first)).1, []⟩ :=
    @Step.commit _ [] [] first rfl
  have hpublished₂ := Server.idle.commit_ofRan_published second
  have hpublished₁ := (Server.idle.commit (.ofRan second)).1.commit_ofRan_published first
  rw [if_pos (show second.error = none from herror₂)] at hpublished₂
  rw [if_pos (show first.error = none from herror₁)] at hpublished₁
  refine ⟨_, _, .tail (.tail (.tail (.tail (.tail (.single hbegun₁) hbegun₂) hrendered₁) hedited)
    hrendered₂) hcommitted₂, hcommitted₁, rfl, ⟨?_, ?_⟩, ⟨.rendered first, by simp, hnumber₁, herror₁⟩,
    ?_, ?_⟩
  · simp only [number?, hpublished₂, Option.map_some]
    exact congrArg some hnumber₂
  · simp only [Server.current?, hpublished₂, Option.bind_some]
    exact hresult₂
  · simp only [number?, hpublished₁, Option.map_some]
    exact congrArg some hnumber₁
  · simp only [Server.current?, hpublished₁, Option.bind_some]
    exact hresult₁

/-- **Older sites return through overtaken rebuilds, and only so**: rebuilds take numbers, render and
    commit in any order, with edits in between, and a rebuild of the server is these three steps with
    nothing between them.  From any state that is reached, the published number can fall exactly when
    a rebuild with a smaller number is in flight that may still succeed. -/
theorem older_site_returns_iff (g : Generator) (fs : FileSystem) (t : Traffic)
    (ht : (start g fs).Reaches t) (n : Int) (hn : t.number? = some n) :
    (∀ cancelled,
      let done := t.server.rebuild Generator.renderer ⟨t.generator, t.files, cancelled⟩
      t.Reaches { t with generator := done.2.1.generator, server := done.1 }) ∧
    ((∃ t' m, t.Reaches t' ∧ t'.number? = some m ∧ m < n) ↔
      ∃ f ∈ t.flights, f.number < n ∧ f.MaySucceed t.generator) := by
  refine ⟨t.rebuild_steps, ?_, ?_⟩
  · rintro ⟨t', m, hreaches, hm, hlt⟩
    -- the published number is taken, so a rebuild that starts from here on has a larger one
    have htaken : n ≤ t.generator.runs := ((start_numbered g fs).reaches ht).published n hn
    rcases (Since.of_reaches hreaches).published with hsame | ⟨m', hm', hcause⟩
    · rw [hm, hn] at hsame
      exact absurd (Option.some.inj hsame) hlt.ne
    · obtain rfl : m = m' := Option.some.inj (hm.symm.trans hm')
      rcases hcause with hlater | ⟨f, hf, rfl, hsucceeds⟩
      · omega
      · exact ⟨f, hf, hlt, hsucceeds⟩
  · rintro ⟨f, hf, hlt, hsucceeds⟩
    obtain ⟨t', hreaches, hnumber⟩ := exists_published hf hsucceeds
    exact ⟨t', f.number, hreaches, hnumber, hlt⟩

/-- The second of two rebuilds is published while the first is in flight: the published number may fall. -/
theorem number_may_fall_below_two :
    let fs : FileSystem := ⟨[([bytes "t", bytes "page.html"], .file []),
      ([bytes "t", bytes "index.html"], .file []), ([bytes "t"], .directory), ([bytes "r"], .file [])], []⟩
    let g : Generator := ⟨{ Config.empty with readme := bytes "r", template := bytes "t" }, .ok, 0⟩
    ∃ t : Traffic, (start g fs).Reaches t ∧ t.number? = some 2 ∧
      ∃ t' m, t.Reaches t' ∧ t'.number? = some m ∧ m < 2 := by
  intro fs g
  have hload : Generator.load g.config fs = .ok ⟨[], [], ⟨[], [], []⟩⟩ := by
    unfold Generator.load Templates.load FileSystem.names
    simp only [Bytes.mergeSort_key]
    decide
  have hview : ((parseScripts []).1.toOption.map fun t =>
      (Site.build .ok t [] ⟨[], [], []⟩ []).toOption.map Site.pages) =
      some (some [⟨bytes "index.html", []⟩]) := by
    unfold Site.build Site.indexPage Site.entityPage Site.assetPages fill
    simp only [Bytes.mergeSort_key]
    decide
  obtain ⟨r, hrendered, -⟩ := Generator.exists_rendering_of_view hload hview
  obtain ⟨inputs, tree, site, hrenders, -⟩ := Generator.rendering_eq_ok_iff.1 hrendered
  obtain ⟨t, -, hreaches, -, -, ⟨hnumber, -⟩, ⟨f, hf, hfnumber, hsucceeds⟩, -⟩ :=
    exists_overtaken hrenders hrenders
  obtain ⟨-, hreturns⟩ := older_site_returns_iff g fs t hreaches 2 hnumber
  have holder : f.number < 2 := by
    rw [hfnumber]
    decide
  exact ⟨t, hreaches, hnumber, hreturns.2 ⟨f, hf, holder, hsucceeds⟩⟩

/-- A rebuild is overtaken by one that has read an edit: the second build is published, then the first,
    and the edit is lost. -/
theorem overtaken_rebuild_replaces_newer_site :
    let old : FileSystem := ⟨[([bytes "t", bytes "page.html"], .file []),
      ([bytes "t", bytes "index.html"], .file (bytes "i")), ([bytes "t"], .directory),
      ([bytes "r"], .file [])], []⟩
    let new : FileSystem := ⟨[([bytes "t", bytes "page.html"], .file []),
      ([bytes "t", bytes "index.html"], .file (bytes "j")), ([bytes "t"], .directory),
      ([bytes "r"], .file [])], []⟩
    let g : Generator := ⟨{ Config.empty with readme := bytes "r", template := bytes "t" }, .ok, 0⟩
    ∃ t t' : Traffic, (start g old).Reaches t ∧ Step t t' ∧ t'.files = new ∧
      t.number? = some 2 ∧
      t.server.current?.map (fun r => r.site.pages) = some [⟨bytes "index.html", bytes "j"⟩] ∧
      t'.number? = some 1 ∧
      t'.server.current?.map (fun r => r.site.pages) = some [⟨bytes "index.html", bytes "i"⟩] := by
  intro old new g
  have hload : Generator.load g.config old = .ok ⟨[], [], ⟨bytes "i", [], []⟩⟩ := by
    unfold Generator.load Templates.load FileSystem.names
    simp only [Bytes.mergeSort_key]
    decide
  have hview : ((parseScripts []).1.toOption.map fun t =>
      (Site.build .ok t [] ⟨bytes "i", [], []⟩ []).toOption.map Site.pages) =
      some (some [⟨bytes "index.html", bytes "i"⟩]) := by
    unfold Site.build Site.indexPage Site.entityPage Site.assetPages fill
    simp only [Bytes.mergeSort_key]
    decide
  have hload' : Generator.load g.config new = .ok ⟨[], [], ⟨bytes "j", [], []⟩⟩ := by
    unfold Generator.load Templates.load FileSystem.names
    simp only [Bytes.mergeSort_key]
    decide
  have hview' : ((parseScripts []).1.toOption.map fun t =>
      (Site.build .ok t [] ⟨bytes "j", [], []⟩ []).toOption.map Site.pages) =
      some (some [⟨bytes "index.html", bytes "j"⟩]) := by
    unfold Site.build Site.indexPage Site.entityPage Site.assetPages fill
    simp only [Bytes.mergeSort_key]
    decide
  obtain ⟨r, hrendered, hpages⟩ := Generator.exists_rendering_of_view hload hview
  obtain ⟨r', hrendered', hpages'⟩ := Generator.exists_rendering_of_view hload' hview'
  obtain ⟨inputs, tree, site, hold, rfl⟩ := Generator.rendering_eq_ok_iff.1 hrendered
  obtain ⟨inputs', tree', site', hnew, rfl⟩ := Generator.rendering_eq_ok_iff.1 hrendered'
  obtain ⟨t, t', hreaches, hstep, hfiles, ⟨hnumber, hcurrent⟩, -, hnumber', hcurrent'⟩ :=
    exists_overtaken hold hnew
  refine ⟨t, t', hreaches, hstep, hfiles, hnumber, ?_, hnumber', ?_⟩
  · rw [hcurrent, Option.map_some, hpages']
  · rw [hcurrent', Option.map_some, hpages]

end Traffic

end DocPages
