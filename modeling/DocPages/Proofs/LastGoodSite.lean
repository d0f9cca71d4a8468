import DocPages.Proofs.BuildRecords
import DocPages.Proofs.ServerReports

/-!
# The Last Good Site

A preview server keeps two builds, which change under different conditions: a build becomes the last
attempt whenever there is one, and it is published when it came without a failure.  What the server
shows is therefore told by the rebuilds alone.  Pages and lists of entities come from the last rebuild
that did not fail, and the report comes from the last rebuild that gave a build, whatever edits and
requests lie in between.

## Main results

- `Serving`, `Serving.run`: a server with its renderer, and what becomes of it
- `site?`, `lastBuilt?`: what the rebuilds so far give to show
- `Serving.Shows.run`: the two builds of the server are these, after any actions
- `serves_last_good_site`: every response is the one of the last good site
- `Generator.renderer_reliable`: the renderer of a generator gives a result whenever it does not fail
-/

namespace DocPages

/-! ## §1 Servers at work -/

/-- What can happen to a server: what its renderer reads is edited, it is told to rebuild, or it gets a
    request.  `σ` is all that the renderer reads and keeps. -/
inductive Action (σ : Type) where
  | edit (change : σ → σ)
  | rebuild
  | request (r : Http.Request)

/-- A server at work, with what its renderer reads and the outcomes of the rebuilds so far. -/
structure Serving (σ : Type) where
  server : Server
  state : σ
  attempts : List Attempt

namespace Serving

variable {σ : Type} (times : BuildTimes) (render : σ → σ × Attempt)

/-- A server that has built nothing yet. -/
def start (state : σ) : Serving σ := ⟨.idle, state, []⟩

/-- The response to a request. -/
def response (p : Serving σ) (r : Http.Request) : Http.Response :=
  (p.server.handle times (some render) r p.state).2.2.2

/-- The outcome of the rebuild that an action brings about: a server is told to rebuild, or it is asked
    to by a request. -/
def attempt? (p : Serving σ) : Action σ → Option Attempt
  | .edit _ => none
  | .rebuild => some (render p.state).2
  | .request r => if route r = .rebuild then some (render p.state).2 else none

/-- What becomes of a server by an action. -/
def next (p : Serving σ) (action : Action σ) : Serving σ :=
  let attempts := p.attempts ++ (p.attempt? render action).toList
  match action with
  | .edit change => { p with state := change p.state }
  | .rebuild =>
    let done := p.server.rebuild render p.state
    ⟨done.1, done.2.1, attempts⟩
  | .request r =>
    let done := p.server.handle times (some render) r p.state
    ⟨done.1, done.2.1, attempts⟩

/-- What becomes of a server by a list of actions, handled one at a time. -/
def run (p : Serving σ) (actions : List (Action σ)) : Serving σ := actions.foldl (next times render) p

end Serving

/-! ## §2 What the rebuilds give to show -/

/-- The result of the last rebuild that did not fail. -/
def site? (attempts : List Attempt) : Option Result :=
  (attempts.filter fun a => a.failure.isNone).getLast?.bind fun a => a.build.bind Build.result

/-- The build of the last rebuild that gave one, failed or not. -/
def lastBuilt? (attempts : List Attempt) : Option Build := (attempts.filterMap Attempt.build).getLast?

theorem site?_append_of_failed {attempts : List Attempt} {a : Attempt} (h : a.failure ≠ none) :
    site? (attempts ++ [a]) = site? attempts := by
  have hfailed : a.failure.isNone = false := Option.isNone_eq_false_iff.2 (Option.isSome_iff_ne_none.2 h)
  simp [site?, List.filter_append, hfailed]

theorem site?_append_of_good {attempts : List Attempt} {a : Attempt} (h : a.failure = none) :
    site? (attempts ++ [a]) = a.build.bind Build.result := by
  simp [site?, List.filter_append, h]

theorem lastBuilt?_append (attempts : List Attempt) (a : Attempt) :
    lastBuilt? (attempts ++ [a]) = a.build.or (lastBuilt? attempts) := by
  cases hbuild : a.build with
  | none => simp [lastBuilt?, List.filterMap_append, hbuild]
  | some b => simp [lastBuilt?, List.filterMap_append, hbuild]

/-- A renderer is reliable when it gives a build with a result whenever it does not fail. -/
def Reliable {σ : Type} (render : σ → σ × Attempt) : Prop :=
  ∀ state, (render state).2.failure = none →
    ∃ b r, (render state).2.build = some b ∧ b.result = some r

/-- The response to a request for a page, by the site that there is to show. -/
def pageShown : Option Result → Bytes → Http.Response
  | none, _ => Http.errorResponse 503 (bytes "no site has been built yet")
  | some r, path =>
    match r.site.pages.find? fun p => p.path = path with
    | some page => ⟨200, Http.contentType path, bytes "\"" ++ r.digest ++ bytes "\"", false, page.content⟩
    | none => .notFound

/-- The response to a request for the entities of a kind, by the site that there is to show. -/
def entitiesShown : Option Result → Bytes → Http.Response
  | none, _ => Http.errorResponse 503 (bytes "no site has been built yet")
  | some r, kind => .json 200 (r.tree.entitiesJson kind ++ bytes "\n")

/-- The response to a request for a report, by the build that there is to report. -/
def buildShown (times : BuildTimes) : Option Build → Http.Response
  | none => Http.errorResponse 404 (bytes "no build has run yet")
  | some b => .json 200 (b.json times ++ bytes "\n")

/-- What is read from the response to a request for the entities of a kind: a status and a value. -/
def listingShown : Option Result → Bytes → Nat × Json.Value
  | none, _ => (503, errorReport (bytes "no site has been built yet"))
  | some r, kind => (200, r.tree.listing kind)

/-- What is read from the response to a request for a report. -/
def reportShown (times : BuildTimes) : Option Build → Nat × Json.Value
  | none => (404, errorReport (bytes "no build has run yet"))
  | some b => (200, b.report times)

theorem carries_pageShown_none (path : Bytes) :
    (pageShown none path).Carries 503 (errorReport (bytes "no site has been built yet")) :=
  Http.carries_errorResponse 503 _

theorem carries_entitiesShown (shown : Option Result) (kind : Bytes) :
    (entitiesShown shown kind).Carries (listingShown shown kind).1 (listingShown shown kind).2 := by
  cases shown with
  | none => exact Http.carries_errorResponse 503 _
  | some r => exact Http.carries_json (r.tree.reads_entitiesJson kind) 200

theorem carries_buildShown (times : BuildTimes) (shown : Option Build) :
    (buildShown times shown).Carries (reportShown times shown).1 (reportShown times shown).2 := by
  cases shown with
  | none => exact Http.carries_errorResponse 404 _
  | some b => exact Http.carries_json (b.reads_json times) 200

/-! ## §3 One action -/

namespace Server

/-- A commit of a failure keeps the site that is shown. -/
theorem commit_current?_of_failed (s : Server) {a : Attempt} (h : a.failure ≠ none) :
    (s.commit a).1.current? = s.current? := by
  obtain ⟨failure, hfailure⟩ := Option.ne_none_iff_exists'.1 h
  unfold commit
  rw [hfailure]
  cases a.build <;> rfl

/-- A commit without a failure shows the result of its build. -/
theorem commit_current?_of_good (s : Server) {a : Attempt} (h : a.failure = none) :
    (s.commit a).1.current? = a.build.bind Build.result := by
  unfold commit
  rw [h]
  cases a.build <;> rfl

/-- A commit reports its build if it has one. -/
theorem commit_attempted (s : Server) (a : Attempt) :
    (s.commit a).1.attempted = a.build.or s.attempted := by
  unfold commit
  cases a.failure <;> cases hbuild : a.build <;> simp

variable {σ : Type} (times : BuildTimes) (render : σ → σ × Attempt)

/-- A request that is not one to rebuild changes nothing, and is answered from the server alone. -/
theorem handle_of_ne_rebuild (s : Server) (state : σ) {r : Http.Request} (h : route r ≠ .rebuild) :
    (s.handle times (some render) r state).1 = s ∧
      (s.handle times (some render) r state).2.1 = state ∧
      (s.handle times (some render) r state).2.2.2 = s.respond times (route r) := by
  unfold handle
  cases hroute : route r with
  | rebuild => exact absurd hroute h
  | _ => exact ⟨rfl, rfl, rfl⟩

/-- A request to rebuild commits what the renderer gives. -/
theorem handle_of_rebuild (s : Server) (state : σ) {r : Http.Request} (h : route r = .rebuild) :
    (s.handle times (some render) r state).1 = (s.commit (render state).2).1 ∧
      (s.handle times (some render) r state).2.1 = (render state).1 := by
  unfold handle
  rw [h]
  exact ⟨rfl, rfl⟩

end Server

/-- A request to read is never one to rebuild. -/
theorem route_ne_rebuild {r : Http.Request} (h : r.method = bytes "GET") : route r ≠ .rebuild := by
  unfold route
  split
  · rw [if_pos (by rw [h]; rfl)]
    split
    · simp
    · split
      · simp
      · split <;> simp
  · simp

namespace Serving

variable {σ : Type} {times : BuildTimes} {render : σ → σ × Attempt} {p : Serving σ}

/-- A server shows what the rebuilds so far give to show. -/
structure Shows (p : Serving σ) : Prop where
  current : p.server.current? = site? p.attempts
  attempted : p.server.attempted = lastBuilt? p.attempts

/-- An action without a rebuild changes no build of the server. -/
theorem next_of_idle {action : Action σ} (h : p.attempt? render action = none) :
    (p.next times render action).server = p.server ∧
      (p.next times render action).attempts = p.attempts := by
  cases action with
  | edit change => exact ⟨rfl, rfl⟩
  | rebuild => simp [attempt?] at h
  | request r =>
    have hroute : route r ≠ .rebuild := by
      intro hroute
      simp [attempt?, hroute] at h
    refine ⟨(p.server.handle_of_ne_rebuild times render p.state hroute).1, ?_⟩
    simp [next, h]

/-- A rebuild, however it comes about, commits its outcome. -/
theorem next_of_attempt {action : Action σ} {a : Attempt} (h : p.attempt? render action = some a) :
    a = (render p.state).2 ∧ (p.next times render action).server = (p.server.commit a).1 ∧
      (p.next times render action).attempts = p.attempts ++ [a] := by
  cases action with
  | edit change => simp [attempt?] at h
  | rebuild =>
    obtain rfl : (render p.state).2 = a := Option.some.inj h
    exact ⟨rfl, rfl, rfl⟩
  | request r =>
    have hroute : route r = .rebuild := by
      by_contra hroute
      simp [attempt?, hroute] at h
    obtain rfl : (render p.state).2 = a := by simpa [attempt?, hroute] using h
    refine ⟨rfl, (p.server.handle_of_rebuild times render p.state hroute).1, ?_⟩
    simp [next, h]

/-- One action keeps the server showing what the rebuilds give to show. -/
theorem Shows.next (h : p.Shows) (action : Action σ) : (p.next times render action).Shows := by
  cases hattempt : p.attempt? render action with
  | none =>
    obtain ⟨hserver, hattempts⟩ := @next_of_idle σ times render p action hattempt
    exact ⟨by rw [hserver, hattempts, h.current], by rw [hserver, hattempts, h.attempted]⟩
  | some a =>
    obtain ⟨-, hserver, hattempts⟩ := @next_of_attempt σ times render p action a hattempt
    constructor
    · rw [hserver, hattempts]
      by_cases hfailure : a.failure = none
      · rw [Server.commit_current?_of_good _ hfailure, site?_append_of_good hfailure]
      · rw [Server.commit_current?_of_failed _ hfailure, site?_append_of_failed hfailure, h.current]
    · rw [hserver, hattempts, Server.commit_attempted, lastBuilt?_append, h.attempted]

theorem start_shows (state : σ) : (start state).Shows := ⟨rfl, rfl⟩

/-- After any actions the server shows what the rebuilds so far give to show. -/
theorem Shows.run (h : p.Shows) (actions : List (Action σ)) : (p.run times render actions).Shows := by
  induction actions generalizing p with
  | nil => exact h
  | cons action rest ih => exact ih (h.next action)

/-- Every rebuild so far was the renderer's. -/
theorem mem_attempts_run {actions : List (Action σ)} {a : Attempt}
    (ha : a ∈ (p.run times render actions).attempts) :
    a ∈ p.attempts ∨ ∃ state, a = (render state).2 := by
  induction actions generalizing p with
  | nil => exact Or.inl ha
  | cons action rest ih =>
    rcases ih ha with hmem | hrendered
    · cases hattempt : p.attempt? render action with
      | none =>
        rw [(next_of_idle hattempt).2] at hmem
        exact Or.inl hmem
      | some a' =>
        obtain ⟨hrendered, -, hattempts⟩ := @next_of_attempt σ times render p action a' hattempt
        rw [hattempts, List.mem_append, List.mem_singleton] at hmem
        rcases hmem with hmem | rfl
        · exact Or.inl hmem
        · exact Or.inr ⟨p.state, hrendered⟩
    · exact Or.inr hrendered

/-- With a reliable renderer there is a site to show as soon as a rebuild has not failed. -/
theorem site?_eq_none_iff (hrender : Reliable render) {attempts : List Attempt}
    (h : ∀ a ∈ attempts, ∃ state, a = (render state).2) :
    site? attempts = none ↔ ∀ a ∈ attempts, a.failure ≠ none := by
  induction attempts using List.reverseRecOn with
  | nil => simp [site?]
  | append_singleton rest a ih =>
    have hrest := ih fun a' ha' => h a' (List.mem_append_left _ ha')
    obtain ⟨state, hstate⟩ := h a (List.mem_append_right _ (List.mem_singleton_self a))
    by_cases hfailure : a.failure = none
    · -- the last rebuild did not fail, so it gave a result
      obtain ⟨b, r, hb, hr⟩ := hrender state (hstate ▸ hfailure)
      rw [site?_append_of_good hfailure, hstate, hb, Option.bind_some, hr]
      simp only [reduceCtorEq, false_iff]
      intro hall
      exact hall (render state).2 (List.mem_append_right _ (List.mem_singleton_self _)) (hstate ▸ hfailure)
    · rw [site?_append_of_failed hfailure, hrest]
      simp [hfailure, or_imp, forall_and]

end Serving

/-! ## §4 Responses -/

namespace Server

variable (times : BuildTimes) (s : Server)

theorem respond_page (path : Bytes) : s.respond times (.page path) = pageShown s.current? path := by
  simp only [respond]
  cases s.current? with
  | none => rfl
  | some r =>
    simp only [pageShown, pageResponse, Site.page?]
    cases r.site.pages.find? fun p => p.path = path <;> rfl

theorem respond_entities (kind : Bytes) :
    s.respond times (.entities kind) = entitiesShown s.current? kind := by
  simp only [respond]
  cases s.current? <;> rfl

theorem respond_status : s.respond times .status = buildShown times s.attempted := by
  simp only [respond]
  cases s.attempted <;> rfl

end Server

namespace Serving

variable {σ : Type} {times : BuildTimes} {render : σ → σ × Attempt} {p : Serving σ}
  {r : Http.Request}

/-- Any request but one to rebuild is answered from the builds of the server. -/
theorem response_eq (h : route r ≠ .rebuild) :
    p.response times render r = p.server.respond times (route r) :=
  (p.server.handle_of_ne_rebuild times render p.state h).2.2

theorem response_page {path : Bytes} (h : route r = .page path) :
    p.response times render r = pageShown p.server.current? path := by
  rw [response_eq (by rw [h]; simp), h, Server.respond_page]

theorem response_entities {kind : Bytes} (h : route r = .entities kind) :
    p.response times render r = entitiesShown p.server.current? kind := by
  rw [response_eq (by rw [h]; simp), h, Server.respond_entities]

theorem response_status (h : route r = .status) :
    p.response times render r = buildShown times p.server.attempted := by
  rw [response_eq (by rw [h]; simp), h, Server.respond_status]

/-- A request to read leaves everything as it is. -/
theorem next_of_get (h : r.method = bytes "GET") : p.next times render (.request r) = p := by
  have hroute := route_ne_rebuild h
  obtain ⟨hserver, hstate, -⟩ := p.server.handle_of_ne_rebuild times render p.state hroute
  simp only [next, attempt?, if_neg hroute, Option.toList_none, List.append_nil, hserver, hstate]

/-- A rebuild that fails leaves the site that is shown as it is. -/
theorem next_current?_of_failed {action : Action σ} {a : Attempt}
    (h : p.attempt? render action = some a) (hfailed : a.failure ≠ none) :
    (p.next times render action).server.current? = p.server.current? := by
  obtain ⟨-, hserver, -⟩ := @next_of_attempt σ times render p action a h
  rw [hserver, Server.commit_current?_of_failed _ hfailed]

end Serving

/-- **The last good site is served**: over any reliable renderer, after any edits, rebuilds and requests
    handled one at a time, pages and entities are shown from the result of the last rebuild that did
    not fail, tag included, and there is none to show exactly when no rebuild has succeeded.  A report
    shows the last build that a rebuild gave, failed or not.  The entries of the entities and the fields
    of the report are read from the responses.  Requests to read change nothing, and a rebuild that fails
    changes no page and no list of entities. -/
theorem serves_last_good_site {σ : Type} (times : BuildTimes) (render : σ → σ × Attempt)
    (hrender : Reliable render) (state : σ) (actions : List (Action σ)) :
    let p := (Serving.start state).run times render actions
    (site? p.attempts = none ↔ ∀ a ∈ p.attempts, a.failure ≠ none) ∧
    (∀ r path, route r = .page path →
      p.response times render r = pageShown (site? p.attempts) path ∧
      (site? p.attempts = none → (p.response times render r).Carries 503
        (errorReport (bytes "no site has been built yet")))) ∧
    (∀ r kind, route r = .entities kind →
      let shown := listingShown (site? p.attempts) kind
      p.response times render r = entitiesShown (site? p.attempts) kind ∧
      (p.response times render r).Carries shown.1 shown.2) ∧
    (∀ r, route r = .status →
      let shown := reportShown times (lastBuilt? p.attempts)
      p.response times render r = buildShown times (lastBuilt? p.attempts) ∧
      (p.response times render r).Carries shown.1 shown.2) ∧
    (∀ r, r.method = bytes "GET" → p.next times render (.request r) = p) ∧
    ∀ action a, p.attempt? render action = some a → a.failure ≠ none →
      ∀ r, (∃ path, route r = .page path) ∨ (∃ kind, route r = .entities kind) →
        (p.next times render action).response times render r = p.response times render r := by
  intro p
  have hshows : p.Shows := (Serving.start_shows state).run actions
  refine ⟨?_, ?_, ?_, ?_, fun r => Serving.next_of_get, ?_⟩
  · apply Serving.site?_eq_none_iff hrender
    intro a ha
    exact (Serving.mem_attempts_run ha).resolve_left (by simp [Serving.start])
  · intro r path hroute
    have hresponse : p.response times render r = pageShown (site? p.attempts) path := by
      rw [Serving.response_page hroute, hshows.current]
    refine ⟨hresponse, ?_⟩
    intro hnone
    rw [hresponse, hnone]
    exact carries_pageShown_none path
  · intro r kind hroute shown
    have hresponse : p.response times render r = entitiesShown (site? p.attempts) kind := by
      rw [Serving.response_entities hroute, hshows.current]
    refine ⟨hresponse, ?_⟩
    rw [hresponse]
    exact carries_entitiesShown _ kind
  · intro r hroute shown
    have hresponse : p.response times render r = buildShown times (lastBuilt? p.attempts) := by
      rw [Serving.response_status hroute, hshows.attempted]
    refine ⟨hresponse, ?_⟩
    rw [hresponse]
    exact carries_buildShown times _
  · intro action a hattempt hfailed r hroute
    have hsame := @Serving.next_current?_of_failed σ times render p action a hattempt hfailed
    rcases hroute with ⟨path, hroute⟩ | ⟨kind, hroute⟩
    · rw [Serving.response_page hroute, Serving.response_page hroute, hsame]
    · rw [Serving.response_entities hroute, Serving.response_entities hroute, hsame]

/-! ## §5 Generators as renderers -/

/-- What the renderer of a generator reads and keeps: the generator with its count of runs, the files,
    and whether the context of the next run is cancelled. -/
structure Workplace where
  generator : Generator
  files : FileSystem
  cancelled : Bool

namespace Generator

variable {g : Generator} {cancelled : Bool} {fs : FileSystem}

/-- How many runs there were does not matter to what is rendered. -/
theorem renders_with_runs {runs : Nat} {inputs : Inputs} {t : Tree} {site : Site} :
    Renders { g with runs } cancelled fs inputs t site ↔ g.Renders cancelled fs inputs t site :=
  ⟨fun h => ⟨h.read, h.going, h.parsed, h.rendered⟩, fun h => ⟨h.read, h.going, h.parsed, h.rendered⟩⟩

/-- A started run that renders its site ends well, and keeps its number and the result. -/
theorem Renders.renderStarted {inputs : Inputs} {t : Tree} {site : Site}
    (h : g.Renders cancelled fs inputs t site) (b : Build) :
    (g.renderStarted cancelled fs b).error = none ∧
      (g.renderStarted cancelled fs b).build.number = b.number ∧
      (g.renderStarted cancelled fs b).build.result = some (g.result t site) := by
  obtain ⟨b', records, hlater, hsite⟩ := h.renderSite b
  simp only [Generator.renderStarted, hsite]
  exact ⟨rfl, hlater.number, rfl⟩

/-- A started run that fails to render ends with that error, and keeps its number. -/
theorem FailsToRender.renderStarted {phase : Status} {e : RunError}
    (h : g.FailsToRender cancelled fs phase e) (b : Build) :
    (g.renderStarted cancelled fs b).error = some e ∧
      (g.renderStarted cancelled fs b).build.number = b.number := by
  obtain ⟨b', records, hlater, hsite⟩ := h.renderSite b
  simp only [Generator.renderStarted, hsite]
  exact ⟨rfl, hlater.number⟩

/-- The renderer of a generator. -/
def renderer (w : Workplace) : Workplace × Attempt :=
  let done := w.generator.render w.cancelled w.files
  ({ w with generator := done.1 }, .ofRan done.2)

theorem renderer_of_renders {w : Workplace} {inputs : Inputs} {t : Tree} {site : Site}
    (h : w.generator.next.1.Renders w.cancelled w.files inputs t site) :
    (renderer w).2.failure = none ∧
      (renderer w).2.build.bind Build.result = some (w.generator.result t site) := by
  obtain ⟨herror, -, hresult⟩ := h.renderStarted w.generator.next.2
  exact ⟨congrArg (Option.map RenderFailure.run) herror, hresult⟩

theorem renderer_of_fails {w : Workplace} {phase : Status} {e : RunError}
    (h : w.generator.next.1.FailsToRender w.cancelled w.files phase e) :
    (renderer w).2.failure = some (.run e) :=
  congrArg (Option.map RenderFailure.run) (h.renderStarted w.generator.next.2).1

theorem renderer_reliable : Reliable renderer := by
  intro w hfailure
  rcases w.generator.next.1.renders_or_fails w.cancelled w.files with
    ⟨inputs, t, site, hrenders⟩ | ⟨phase, e, hfails⟩
  · exact ⟨_, _, rfl, (renderer_of_renders hrenders).2⟩
  · rw [renderer_of_fails hfails] at hfailure
    contradiction

end Generator

set_option maxRecDepth 4000 in
open Generator in
/-- A site is built, the files are removed, and a rebuild that is posted fails: the index and the entities
    still come from the site, and the report is of the second build, with its error. -/
theorem site_kept_after_failed_rebuild :
    let fs : FileSystem := ⟨[([bytes "a.js"], .file (bytes "/*?\nclass Foo\nFoo#bar() -> X\n**/")),
      ([bytes "t", bytes "page.html"], .file (bytes "p")),
      ([bytes "t", bytes "index.html"], .file (bytes "i")), ([bytes "t"], .directory),
      ([bytes "r"], .file [])], []⟩
    let g : Generator := ⟨{ Config.empty with
      scripts := [bytes "a.js"], readme := bytes "r", template := bytes "t" }, .ok, 0⟩
    let times : BuildTimes := fun _ => (bytes "then", bytes "now")
    let actions : List (Action Workplace) := [.rebuild, .edit fun w => { w with files := ⟨[], []⟩ },
      .request ⟨[], bytes "POST", ⟨bytes "/api/rebuild", bytes "/api/rebuild", []⟩⟩]
    let p := (Serving.start ⟨g, fs, false⟩).run times renderer actions
    let get := fun path => p.response times renderer ⟨[], bytes "GET", ⟨path, path, []⟩⟩
    let foo : Json.Value := .object [(bytes "key", .text (bytes "Foo")),
      (bytes "kind", .text (bytes "class")), (bytes "href", .text (bytes "Foo.html")),
      (bytes "source_name", .text (bytes "a.js")), (bytes "source_line", .number 2)]
    let bar : Json.Value := .object [(bytes "key", .text (bytes "Foo#bar")),
      (bytes "kind", .text (bytes "instance-method")),
      (bytes "href", .text (bytes "Foo.prototype.bar.html")), (bytes "class_key", .text (bytes "Foo")),
      (bytes "source_name", .text (bytes "a.js")), (bytes "source_line", .number 3)]
    let listing : Json.Value := .object [(bytes "entities", .array [foo, bar]),
      (bytes "product", .text [])]
    let progress : Json.Value := .object [(bytes "scripts", .number 0), (bytes "entities", .number 0),
      (bytes "pages", .number 0), (bytes "written", .number 0), (bytes "unchanged", .number 0),
      (bytes "broken_links", .number 0),
      (bytes "errors", .array [.text (bytes "read script: open a.js: no such file or directory")])]
    let report : Json.Value := .object [(bytes "build_id", .number 2),
      (bytes "status", .text (bytes "failed")), (bytes "phase", .text (bytes "reading")),
      (bytes "progress", progress), (bytes "created_at", .text (bytes "then")),
      (bytes "updated_at", .text (bytes "now"))]
    p.attempts.map (fun a => a.failure.isNone) = [true, false] ∧
    (get (bytes "/")).status = 200 ∧ (get (bytes "/")).body = bytes "i" ∧
    (get (bytes "/api/entities")).Carries 200 listing ∧
    (get (bytes "/api/build")).Carries 200 report := by
  intro fs g times actions p get foo bar listing progress report
  have hload : load g.config fs = .ok ⟨[⟨bytes "a.js", bytes "/*?\nclass Foo\nFoo#bar() -> X\n**/"⟩],
      [], ⟨bytes "i", bytes "p", []⟩⟩ := by
    unfold load Templates.load FileSystem.names
    simp only [Bytes.mergeSort_key]
    decide
  have hview : ((parseScripts [⟨bytes "a.js", bytes "/*?\nclass Foo\nFoo#bar() -> X\n**/"⟩]).1.toOption.map
      fun t => (Site.build .ok t [] ⟨bytes "i", bytes "p", []⟩ []).toOption.map Site.pages) =
      some (some [⟨bytes "index.html", bytes "i"⟩, ⟨bytes "Foo.html", bytes "p"⟩,
        ⟨bytes "Foo.prototype.bar.html", bytes "p"⟩]) := by
    unfold Site.build Site.indexPage Site.entityPage Site.assetPages fill
    simp only [Bytes.mergeSort_key]
    decide
  have htree : (parseScripts [⟨bytes "a.js",
      bytes "/*?\nclass Foo\nFoo#bar() -> X\n**/"⟩]).1.toOption.map (Tree.listing · []) =
      some listing := rfl
  have hgone : load g.config ⟨[], []⟩ = .error (.script ⟨bytes "open", bytes "a.js", .notExist⟩) := rfl
  have hbuild : (renderer ⟨g.next.1, ⟨[], []⟩, false⟩).2.build.map (Build.report times) =
      some report := rfl
  obtain ⟨r, hrendered, hpages⟩ := exists_rendering_of_view hload hview
  obtain ⟨inputs, t, site, hrenders, rfl⟩ := rendering_eq_ok_iff.1 hrendered
  have hlisting : t.listing [] = listing := by
    obtain rfl := Except.ok.inj (hrenders.read.symm.trans hload)
    obtain ⟨t', hparse, hlisted⟩ := exists_tree_of_view htree
    obtain rfl := Except.ok.inj (hrenders.parsed.symm.trans hparse)
    exact hlisted
  -- from here on the values do not matter
  clear_value fs g listing report
  let before : Workplace := ⟨g, fs, false⟩
  let after : Workplace := ⟨g.next.1, ⟨[], []⟩, false⟩
  have hattempts : p.attempts = [(renderer before).2] ++ [(renderer after).2] := rfl
  have hbefore : before.generator.next.1.Renders before.cancelled before.files inputs t site :=
    renders_with_runs.2 hrenders
  obtain ⟨hgood, hresult⟩ := renderer_of_renders hbefore
  have hafter : after.generator.next.1.FailsToRender after.cancelled after.files .reading _ := .unread hgone
  have hfailed : (renderer after).2.failure ≠ none := by
    rw [renderer_of_fails hafter]
    simp
  have hsite : site? p.attempts = some (g.result t site) := by
    rw [hattempts, site?_append_of_failed hfailed]
    exact (@site?_append_of_good [] _ hgood).trans hresult
  obtain ⟨b, hlast, hreport⟩ : ∃ b, lastBuilt? p.attempts = some b ∧ b.report times = report := by
    obtain ⟨b, hb, hreport⟩ := Option.map_eq_some_iff.1 hbuild
    have hgiven : (renderer after).2.build = some b := hb
    refine ⟨b, ?_, hreport⟩
    rw [hattempts, lastBuilt?_append, hgiven, Option.some_or]
  obtain ⟨-, hpage, hentities, hstatus, -⟩ :=
    serves_last_good_site times renderer renderer_reliable before actions
  have hindex := (hpage ⟨[], bytes "GET", ⟨bytes "/", bytes "/", []⟩⟩ (bytes "index.html") (by decide)).1
  rw [show site? _ = _ from hsite] at hindex
  have hshown : pageShown (some (g.result t site)) (bytes "index.html") =
      ⟨200, Http.contentType (bytes "index.html"),
        bytes "\"" ++ (g.result t site).digest ++ bytes "\"", false, bytes "i"⟩ := by
    simp only [pageShown, hpages]
    rfl
  rw [hshown] at hindex
  have hlist := (hentities ⟨[], bytes "GET", ⟨bytes "/api/entities", bytes "/api/entities", []⟩⟩ []
    (by decide)).2
  rw [show site? _ = _ from hsite] at hlist
  have hreported := (hstatus ⟨[], bytes "GET", ⟨bytes "/api/build", bytes "/api/build", []⟩⟩
    (by decide)).2
  rw [show lastBuilt? _ = _ from hlast] at hreported
  refine ⟨?_, congrArg Http.Response.status hindex, congrArg Http.Response.body hindex,
    hlisting ▸ hlist, hreport ▸ hreported⟩
  rw [hattempts]
  simp [hgood, Option.isSome_iff_ne_none.2 hfailed]

end DocPages
