import Mathlib.Data.List.Induction
import DocPages.Proofs.SessionRun

/-!
# The Lines of a Run

A run reads the lines inside the blocks of its scripts one after the other.  Each reading keeps
where the line stands, what it says and the state it was read in.  What became of an entity can
then be said of the readings alone: which line made it, which lines were merged into it, and which
lines were read while it was open.

## Main results

- `Reading`, `readings`: the lines that a run has read, in source order
- `readings_eq_blockLines`: these are the lines inside the blocks of the scripts
- `Reading.opened`, `openAt`: the entity that a declaration opens, and the one open at a place
- `Transcript.next_cases`: what one event can do
- `Transcript.Tracks`, `Transcript.run_tracks`: the open entity of the session is the one that the
  most recent declaration of the block opened
- `Surviving`, `Transcript.run_surviving`: the line that every indexed entity comes from, and what
  holds of the entity from that line on
-/

namespace DocPages

/-! ## §1 Places -/

/-- The block that a line stands in: the position of its script, and its own in that script. -/
structure BlockPlace where
  script : Nat
  block : Nat
  deriving DecidableEq, Repr

/-- A line inside a block, with the block and the script. -/
structure PlacedLine where
  place : BlockPlace
  source : Bytes
  line : BlockLine
  deriving DecidableEq, Repr

/-- The block lines of one script from the block at `p` on; a closing line ends its block. -/
def placeLines (p : BlockPlace) (source : Bytes) : List BlockLine → List PlacedLine
  | [] => []
  | l :: rest =>
    ⟨p, source, l⟩ :: placeLines (if l.closing then ⟨p.script, p.block + 1⟩ else p) source rest

/-- The lines inside the blocks of scripts, the first of which has the given position. -/
def placedLines (position : Nat) : List Script → List PlacedLine
  | [] => []
  | script :: rest =>
    placeLines ⟨position, 0⟩ script.name (blockLines script.text) ++ placedLines (position + 1) rest

/-! ## §2 Readings -/

/-- A line as it was read. -/
structure Reading where
  place : BlockPlace
  source : Bytes
  number : Nat
  line : Line
  /-- The state in which the line was read. -/
  before : Session

namespace Reading

variable (r : Reading)

/-- Whether the line declares something. -/
def declares : Bool := r.line.key?.isSome

/-- The constructor that the line was merged into. -/
def merged : Option Handle := r.before.mergeTarget r.line

/-- The key under which the line put a new entity. -/
def created : Option Bytes := r.before.created r.line

/-- The entity that the line opened. -/
def opened : Option Handle := r.before.opens r.line

/-- The state after the line. -/
def after : Session := r.before.step r.line r.source r.number

end Reading

/-- The most recent declaration at a place. -/
def latest (past : List Reading) (p : BlockPlace) : Option Reading :=
  past.reverse.find? fun r => decide (r.place = p) && r.declares

/-- The entity that the most recent declaration at a place opened. -/
def openAt (past : List Reading) (p : BlockPlace) : Option Handle :=
  (latest past p).bind Reading.opened

theorem latest_snoc (past : List Reading) (r : Reading) (p : BlockPlace) :
    latest (past ++ [r]) p = if r.place = p ∧ r.declares = true then some r else latest past p := by
  unfold latest
  rw [List.reverse_append, List.reverse_singleton, List.singleton_append, List.find?_cons]
  by_cases h : r.place = p ∧ r.declares = true
  · simp [h]
  · rw [if_neg h]
    have hfalse : (decide (r.place = p) && r.declares) = false := by
      simpa [Bool.and_eq_false_iff] using fun h₁ => by simpa [h₁] using h
    rw [hfalse]

theorem openAt_snoc (past : List Reading) (r : Reading) (p : BlockPlace) :
    openAt (past ++ [r]) p = if r.place = p then r.opened.or (openAt past p) else openAt past p := by
  unfold openAt
  rw [latest_snoc]
  by_cases hplace : r.place = p
  · cases hkey : r.line.key? with
    | none => simp [hplace, Reading.declares, Reading.opened, Session.opens, hkey]
    | some key => simp [hplace, Reading.declares, Reading.opened, Session.opens, hkey]
  · simp [hplace]

/-- A run so far: the place of the next line, the state, and the lines that were read. -/
structure Transcript where
  place : BlockPlace
  session : Session
  past : List Reading

namespace Transcript

/-- Before any script. -/
def start : Transcript := ⟨⟨0, 0⟩, .start, []⟩

/-- The reading of a line at this point. -/
def reading (g : Transcript) (source : Bytes) (number : Nat) (l : Line) : Reading :=
  ⟨g.place, source, number, l, g.session⟩

/-- The run after a line. -/
def read (g : Transcript) (source : Bytes) (number : Nat) (l : Line) : Transcript :=
  ⟨g.place, g.session.step l source number, g.past ++ [g.reading source number l]⟩

/-- The run after one event. -/
def next (g : Transcript) (e : Event) : Transcript :=
  match e with
  | .beginScript text => { g with session := g.session.readBanner text }
  | .line source number text =>
    match Line.classify text with
    | .ok l => g.read source number l
    | .error _ => g
  | .endBlock => ⟨⟨g.place.script, g.place.block + 1⟩, g.session.close, g.past⟩
  | .endScript => ⟨⟨g.place.script + 1, 0⟩, g.session.close, g.past⟩

/-- The run after a list of events. -/
def run (g : Transcript) (es : List Event) : Transcript := es.foldl next g

@[simp] theorem run_nil (g : Transcript) : g.run [] = g := rfl

@[simp] theorem run_cons (g : Transcript) (e : Event) (es : List Event) :
    g.run (e :: es) = (g.next e).run es := rfl

@[simp] theorem run_append (g : Transcript) (es₁ es₂ : List Event) :
    g.run (es₁ ++ es₂) = (g.run es₁).run es₂ := List.foldl_append

theorem next_line (g : Transcript) (source : Bytes) (number : Nat) {text : Bytes} {l : Line}
    (h : Line.classify text = .ok l) :
    g.next (.line source number text) = g.read source number l := by
  simp [next, h]

theorem next_session (g : Transcript) (e : Event) : (g.next e).session = g.session.apply e := by
  cases e with
  | line source number text =>
    cases hline : Line.classify text <;> simp [next, read, Session.apply, hline]
  | _ => rfl

theorem run_session (g : Transcript) (es : List Event) : (g.run es).session = g.session.run es := by
  induction es generalizing g with
  | nil => rfl
  | cons e es ih => rw [run_cons, ih, next_session]; rfl

end Transcript

/-- The lines that reading some scripts has read, in source order. -/
def readings (scripts : List Script) : List Reading := (Transcript.start.run (events scripts)).past

/-- The tree of an accepted list of scripts is that at the end of its transcript. -/
theorem parseScripts_eq_transcript {scripts : List Script} {t : Tree}
    (h : (parseScripts scripts).1 = .ok t) :
    t = (Transcript.start.run (events scripts)).session.tree := by
  rw [Transcript.run_session]
  exact (parseScripts_eq_ok h).1

/-! ## §3 Readings are the lines of the blocks -/

/-- A reading of a line inside a block. -/
structure Reading.Reads (r : Reading) (l : PlacedLine) : Prop where
  place : r.place = l.place
  source : r.source = l.source
  number : r.number = l.line.number
  line : Line.classify l.line.text = .ok r.line

namespace Transcript

theorem run_lineEvents {source : Bytes} {ls : List BlockLine}
    (hreadable : ∀ e ∈ lineEvents source ls, e.Readable) (g : Transcript) :
    (g.run (lineEvents source ls)).place.script = g.place.script ∧
      ∃ rs, (g.run (lineEvents source ls)).past = g.past ++ rs ∧
        List.Forall₂ Reading.Reads rs (placeLines g.place source ls) := by
  induction ls generalizing g with
  | nil => exact ⟨rfl, [], by simp [lineEvents], List.Forall₂.nil⟩
  | cons l rest ih =>
    rw [lineEvents] at hreadable
    obtain ⟨⟨line, hline⟩, htail⟩ := List.forall_mem_cons.1 hreadable
    have hfirst := g.next_line source l.number hline
    cases hclosing : l.closing with
    | true =>
      -- the lines after a closing line stand in the next block
      rw [hclosing] at htail
      obtain ⟨hscript, rs, hpast, hreads⟩ := ih (List.forall_mem_cons.1 htail).2
        ((g.next (.line source l.number l.text)).next .endBlock)
      rw [lineEvents, hclosing, if_pos rfl, run_cons, run_cons]
      rw [hfirst] at hscript hpast hreads ⊢
      refine ⟨hscript, g.reading source l.number line :: rs, ?_, ?_⟩
      · rw [hpast]
        simp [next, read]
      · rw [placeLines, hclosing]
        exact List.Forall₂.cons ⟨rfl, rfl, rfl, hline⟩ hreads
    | false =>
      rw [hclosing] at htail
      obtain ⟨hscript, rs, hpast, hreads⟩ := ih htail (g.next (.line source l.number l.text))
      rw [lineEvents, hclosing, if_neg Bool.false_ne_true, run_cons]
      rw [hfirst] at hscript hpast hreads ⊢
      refine ⟨hscript, g.reading source l.number line :: rs, ?_, ?_⟩
      · rw [hpast]
        simp [read]
      · rw [placeLines, hclosing]
        exact List.Forall₂.cons ⟨rfl, rfl, rfl, hline⟩ hreads

theorem run_events {scripts : List Script} (hreadable : ∀ e ∈ events scripts, e.Readable)
    (g : Transcript) (hblock : g.place.block = 0) :
    ∃ rs, (g.run (events scripts)).past = g.past ++ rs ∧
      List.Forall₂ Reading.Reads rs (placedLines g.place.script scripts) := by
  induction scripts generalizing g with
  | nil => exact ⟨[], by simp [events], List.Forall₂.nil⟩
  | cons script rest ih =>
    rw [events_cons] at hreadable
    obtain ⟨hhead, htail⟩ := List.forall_mem_append.1 hreadable
    have hlines : ∀ e ∈ lineEvents script.name (blockLines script.text), e.Readable :=
      fun e he => hhead e (List.mem_cons_of_mem _ (List.mem_append_left _ he))
    obtain ⟨hscript, rs, hpast, hreads⟩ := run_lineEvents hlines (g.next (.beginScript script.text))
    have hplace : (g.next (.beginScript script.text)).place = ⟨g.place.script, 0⟩ := by
      rw [← hblock]
      rfl
    rw [hplace] at hscript hreads
    obtain ⟨rs', hpast', hreads'⟩ := ih htail (g.run (scriptEvents script)) (by
      simp [scriptEvents, next])
    refine ⟨rs ++ rs', ?_, ?_⟩
    · rw [events_cons, run_append, hpast']
      simp only [scriptEvents, run_cons, run_append, run_nil]
      have hend : ∀ g : Transcript, (g.next .endScript).past = g.past := fun _ => rfl
      rw [hend, hpast, List.append_assoc]
      rfl
    · -- the end of a script leads to the first block of the next one
      have hnext : (g.run (scriptEvents script)).place.script = g.place.script + 1 := by
        simp only [scriptEvents, run_cons, run_append, run_nil]
        rw [← hscript]
        rfl
      rw [hnext] at hreads'
      exact List.rel_append hreads hreads'

end Transcript

/-- The readings of an accepted list of scripts are the lines inside its blocks, in source order. -/
theorem readings_eq_blockLines {scripts : List Script}
    (hreadable : ∀ e ∈ events scripts, e.Readable) :
    List.Forall₂ Reading.Reads (readings scripts) (placedLines 0 scripts) := by
  obtain ⟨rs, hpast, hreads⟩ := Transcript.run_events hreadable Transcript.start rfl
  have hrs : readings scripts = rs := hpast
  rw [hrs]
  exact hreads

/-! ## §4 What an event does to a run -/

/-- Whether a place comes before another one in source order. -/
def BlockPlace.Before (p q : BlockPlace) : Prop :=
  p.script < q.script ∨ p.script = q.script ∧ p.block < q.block

namespace Transcript

/-- Nothing is read between two points of a run: the tree stays, its product apart, nothing is recorded,
    and the open entity is kept at the same place and closed at a later one. -/
structure Pauses (g g' : Transcript) : Prop where
  past : g'.past = g.past
  tree : ∃ product, g'.session.tree = { g.session.tree with product }
  records : g'.session.records = g.session.records
  place : g'.place = g.place ∧ g'.session.current = g.session.current ∨
    g.place.Before g'.place ∧ g'.session.current = none

/-- What one event can do: read a line, or read nothing. -/
theorem next_cases (g : Transcript) (e : Event) :
    (∃ source number l, l.KeyForm ∧ g.next e = g.read source number l) ∨ g.Pauses (g.next e) := by
  have hself : g.Pauses g := ⟨rfl, ⟨g.session.tree.product, rfl⟩, rfl, Or.inl ⟨rfl, rfl⟩⟩
  cases e with
  | beginScript text =>
    refine Or.inr ?_
    simp only [next, Session.readBanner]
    split
    · next product _ => exact ⟨rfl, ⟨product, rfl⟩, rfl, Or.inl ⟨rfl, rfl⟩⟩
    · exact hself
  | line source number text =>
    cases hline : Line.classify text with
    | ok l => exact Or.inl ⟨source, number, l, Line.classify_keyForm hline, g.next_line _ _ hline⟩
    | error cause => exact Or.inr (by simpa [next, hline] using hself)
  | endBlock =>
    have hbefore : g.place.Before ⟨g.place.script, g.place.block + 1⟩ :=
      Or.inr ⟨rfl, Nat.lt_succ_self _⟩
    exact Or.inr ⟨rfl, ⟨g.session.tree.product, rfl⟩, rfl, Or.inr ⟨hbefore, rfl⟩⟩
  | endScript =>
    have hbefore : g.place.Before ⟨g.place.script + 1, 0⟩ := Or.inl (Nat.lt_succ_self _)
    exact Or.inr ⟨rfl, ⟨g.session.tree.product, rfl⟩, rfl, Or.inr ⟨hbefore, rfl⟩⟩

/-- A property that reading a line keeps and that pauses keep holds after every run. -/
theorem run_of_read {P : Transcript → Prop}
    (hread : ∀ g source number l, Line.KeyForm l → P g → P (g.read source number l))
    (hpause : ∀ g g', Pauses g g' → P g → P g') {g : Transcript} (hg : P g) (es : List Event) :
    P (g.run es) := by
  induction es generalizing g with
  | nil => exact hg
  | cons e es ih =>
    refine ih ?_
    rcases g.next_cases e with ⟨source, number, l, hl, hnext⟩ | hpauses
    · rw [hnext]
      exact hread g source number l hl hg
    · exact hpause _ _ hpauses hg

/-- A list that ends in one more element is split at that element or before it. -/
theorem append_singleton_split {α : Type} {xs pre post : List α} {a b : α}
    (h : xs ++ [a] = pre ++ b :: post) :
    (xs = pre ∧ a = b ∧ post = []) ∨ ∃ post', xs = pre ++ b :: post' ∧ post = post' ++ [a] := by
  rcases List.eq_nil_or_concat post with rfl | ⟨post', c, rfl⟩
  · obtain ⟨h₁, h₂⟩ := List.append_inj' h rfl
    exact Or.inl ⟨h₁, List.singleton_inj.1 h₂, rfl⟩
  · rw [List.concat_eq_append, ← List.cons_append, ← List.append_assoc] at h
    obtain ⟨h₁, h₂⟩ := List.append_inj' h rfl
    obtain rfl := List.singleton_inj.1 h₂
    exact Or.inr ⟨post', h₁, List.concat_eq_append⟩

/-- A reading was made at a point of the run, after the readings before it. -/
theorem exists_run_of_split (es : List Event) {pre post : List Reading} {r : Reading}
    (h : (start.run es).past = pre ++ r :: post) :
    r.line.KeyForm ∧ ∃ es', start.run es' = ⟨r.place, r.before, pre⟩ := by
  -- from the end of the run: its last event has read `r`, or `r` was read before it
  induction es using List.reverseRecOn generalizing post with
  | nil => simp [start] at h
  | append_singleton es e ih =>
    rw [run_append, run_cons, run_nil] at h
    rcases (start.run es).next_cases e with ⟨source, number, l, hl, hnext⟩ | hpauses
    · rw [hnext] at h
      rcases append_singleton_split h with ⟨hpre, rfl, -⟩ | ⟨post', hsplit, -⟩
      · exact ⟨hl, es, by rw [← hpre]; rfl⟩
      · exact ih hsplit
    · exact ih (hpauses.past ▸ h)

end Transcript

/-! ## §5 The open entity -/

namespace Transcript

/-- What holds at every point of a run: the readings are of this place or of earlier ones, the open
    entity is the one that the most recent declaration of the place opened, and what was opened is in
    the tree. -/
structure Tracks (g : Transcript) : Prop where
  nested : g.session.tree.Nested
  places : ∀ r ∈ g.past, r.place = g.place ∨ r.place.Before g.place
  current : g.session.current = openAt g.past g.place
  stored : ∀ r ∈ g.past, ∀ h, r.opened = some h → h < g.session.tree.store.size
  classes : ∀ r ∈ g.past, ∀ key, r.line = .classLine key → ∀ h, r.opened = some h →
    (g.session.tree.entity h).isClass = true

namespace Tracks

variable {g : Transcript}

theorem start : Transcript.start.Tracks where
  nested := Session.start_nested
  places r hr := by simp [Transcript.start] at hr
  current := rfl
  stored r hr := by simp [Transcript.start] at hr
  classes r hr := by simp [Transcript.start] at hr

/-- Nothing was declared yet at a place that comes after all readings. -/
theorem latest_eq_none {p : BlockPlace} (h : ∀ r ∈ g.past, r.place.Before p) :
    latest g.past p = none := by
  refine List.find?_eq_none.2 ?_
  intro r hr
  have hbefore := h r (List.mem_reverse.1 hr)
  have hne : r.place ≠ p := by
    rintro rfl
    rcases hbefore with hlt | ⟨-, hlt⟩ <;> exact Nat.lt_irrefl _ hlt
  simp [hne]

theorem pause (hg : g.Tracks) {g' : Transcript} (hp : g.Pauses g') : g'.Tracks := by
  obtain ⟨product, htree⟩ := hp.tree
  have hbefore : ∀ r ∈ g.past, g.place.Before g'.place → r.place.Before g'.place := by
    intro r hr hplace
    -- the order of places is transitive
    rcases hg.places r hr with heq | hearlier
    · rwa [heq]
    · unfold BlockPlace.Before at hearlier hplace ⊢
      omega
  refine ⟨htree ▸ hg.nested.name product, ?_, ?_, ?_, ?_⟩
  · rw [hp.past]
    intro r hr
    rcases hp.place with ⟨hplace, -⟩ | ⟨hplace, -⟩
    · exact hplace ▸ hg.places r hr
    · exact Or.inr (hbefore r hr hplace)
  · rcases hp.place with ⟨hplace, hcurrent⟩ | ⟨hplace, hcurrent⟩
    · rw [hcurrent, hp.past, hplace, hg.current]
    · -- a later place has no declaration yet, and the end of the block has closed the entity
      rw [hcurrent, hp.past, openAt, latest_eq_none fun r hr => hbefore r hr hplace]
      rfl
  · rw [hp.past, htree]
    exact hg.stored
  · rw [hp.past, htree]
    exact hg.classes

theorem read (hg : g.Tracks) {l : Line} (hl : l.KeyForm) (source : Bytes) (number : Nat) :
    (g.read source number l).Tracks := by
  have hinvariant := hg.nested.invariant
  refine ⟨Session.step_nested hg.nested hl source number, ?_, ?_, ?_, ?_⟩
  · intro r hr
    rcases List.mem_append.1 hr with hr | hr
    · exact hg.places r hr
    · obtain rfl := List.mem_singleton.1 hr
      exact Or.inl rfl
  · -- a declaration is the most recent one of its place
    have hplace : (g.reading source number l).place = g.place := rfl
    show (g.session.step l source number).current =
      openAt (g.past ++ [g.reading source number l]) g.place
    rw [Session.step_current, hg.current, openAt_snoc, if_pos hplace]
    rfl
  · intro r hr h hopened
    rcases List.mem_append.1 hr with hr | hr
    · exact Nat.lt_of_lt_of_le (hg.stored r hr h hopened) Session.le_step_store_size
    · obtain rfl := List.mem_singleton.1 hr
      exact Session.opens_lt hinvariant hopened
  · intro r hr key hline h hopened
    rcases List.mem_append.1 hr with hr | hr
    · have hlt := hg.stored r hr h hopened
      exact (Session.step_isClass hlt).trans (hg.classes r hr key hline h hopened)
    · obtain rfl := List.mem_singleton.1 hr
      obtain rfl : l = .classLine key := hline
      obtain rfl : g.session.tree.store.size = h := Option.some.inj hopened
      have hcreated : g.session.created (.classLine key) = some key := rfl
      exact Entity.isClass_eq_of_bare (Session.step_bare_new hcreated)

end Tracks

/-- Every point of every run has these properties. -/
theorem run_tracks (es : List Event) : (Transcript.start.run es).Tracks :=
  run_of_read (fun _ source number _ hl hg => hg.read hl source number)
    (fun _ _ hp hg => hg.pause hp) Tracks.start es

/-- A further property that reading a line keeps and that pauses keep holds at every point. -/
theorem run_of_tracks {P : Transcript → Prop} (hstart : P Transcript.start)
    (hread : ∀ g source number l, Tracks g → Line.KeyForm l → P g → P (g.read source number l))
    (hpause : ∀ g g', Pauses g g' → P g → P g') (es : List Event) : P (Transcript.start.run es) := by
  have hboth : (Transcript.start.run es).Tracks ∧ P (Transcript.start.run es) := by
    refine run_of_read (P := fun g => g.Tracks ∧ P g) ?_ ?_ ⟨Tracks.start, hstart⟩ es
    · intro g source number l hl hg
      exact ⟨hg.1.read hl source number, hread g source number l hg.1 hl hg.2⟩
    · intro g g' hp hg
      exact ⟨hg.1.pause hp, hpause g g' hp hg.2⟩
  exact hboth.2

end Transcript

/-! ## §6 The surviving declaration -/

/-- Among the readings `rs`, the line `r` put the entity `h` under the key `k` and no later line put
    another one there; the other lines that opened `h` are later ones merged into it. -/
structure Surviving (rs : List Reading) (k : Bytes) (h : Handle) (pre : List Reading) (r : Reading)
    (post : List Reading) : Prop where
  split : rs = pre ++ r :: post
  created : r.created = some k
  opened : r.opened = some h
  unopened : ∀ r' ∈ pre, r'.opened ≠ some h
  last : ∀ r' ∈ post, r'.created ≠ some k
  merged : ∀ r' ∈ post, r'.opened = some h → r'.merged = some h

namespace Surviving

variable {rs : List Reading} {k : Bytes} {h : Handle} {pre post : List Reading} {r : Reading}

/-- A line after the surviving declaration that puts nothing under its key leaves it surviving, if it
    opens the entity only by being merged into it. -/
theorem snoc (hr : Surviving rs k h pre r post) {r' : Reading} (hcreated : r'.created ≠ some k)
    (hmerged : r'.opened = some h → r'.merged = some h) :
    Surviving (rs ++ [r']) k h pre r (post ++ [r']) where
  split := by rw [hr.split, List.append_assoc, List.cons_append]
  created := hr.created
  opened := hr.opened
  unopened := hr.unopened
  last := List.forall_mem_append.2 ⟨hr.last, List.forall_mem_singleton.2 hcreated⟩
  merged := List.forall_mem_append.2 ⟨hr.merged, List.forall_mem_singleton.2 hmerged⟩

end Surviving

namespace Transcript

/-- Every indexed entity has a surviving declaration `r`, and it has with `r` and the lines after it
    whatever holds when a line makes an entity and is kept by the lines and pauses after that. -/
theorem run_surviving {P : Transcript → Bytes → Handle → Reading → List Reading → Prop}
    (hpause : ∀ g g' k h r post, Pauses g g' → P g k h r post → P g' k h r post)
    (hnew : ∀ es source number l k, Line.KeyForm l →
      (start.run es).session.created l = some k →
      P ((start.run es).read source number l) k (start.run es).session.tree.store.size
        ((start.run es).reading source number l) [])
    (hkeep : ∀ es source number l k h r post, Line.KeyForm l →
      (start.run es).session.tree.index.find? k = some h →
      (start.run es).session.created l ≠ some k → P (start.run es) k h r post →
      P ((start.run es).read source number l) k h r
        (post ++ [(start.run es).reading source number l]))
    (es : List Event) {k : Bytes} {h : Handle}
    (hk : (start.run es).session.tree.index.find? k = some h) :
    ∃ pre r post, Surviving (start.run es).past k h pre r post ∧ P (start.run es) k h r post := by
  induction es using List.reverseRecOn generalizing k h with
  | nil => simp [start, Session.start, Tree.empty] at hk
  | append_singleton es e ih =>
    rw [run_append, run_cons, run_nil] at hk ⊢
    rcases (start.run es).next_cases e with ⟨source, number, l, hl, hnext⟩ | hpauses
    · have ht := run_tracks es
      rw [hnext] at hk ⊢
      change ((start.run es).session.step l source number).tree.index.find? k = some h at hk
      rw [Session.step_index ht.nested.invariant hl] at hk
      split at hk
      · -- the line itself puts a new entity under the key
        next hcreated =>
        obtain rfl : (start.run es).session.tree.store.size = h := Option.some.inj hk
        refine ⟨(start.run es).past, (start.run es).reading source number l, [],
          ⟨rfl, hcreated, Session.opens_of_created hcreated, ?_, by simp, by simp⟩,
          hnew es source number l k hl hcreated⟩
        intro r hr hopened
        exact Nat.lt_irrefl _ (ht.stored r hr _ hopened)
      · -- the key keeps its entity, and the line comes after its declaration
        next hcreated =>
        obtain ⟨pre, r, post, hr, hp⟩ := ih hk
        have hlt := (ht.nested.invariant.stored k h hk).1
        refine ⟨pre, r, _, hr.snoc hcreated ?_, hkeep es source number l k h r post hl hk hcreated hp⟩
        intro hopened
        cases hnone : (start.run es).session.created l with
        | none => exact Session.mergeTarget_of_opens hnone hopened
        | some key =>
          -- a line that makes an entity opens that one, which is not in the index yet
          obtain rfl := Option.some.inj ((Session.opens_of_created hnone).symm.trans hopened)
          exact absurd hlt (Nat.lt_irrefl _)
    · obtain ⟨product, htree⟩ := hpauses.tree
      rw [htree] at hk
      obtain ⟨pre, r, post, hr, hp⟩ := ih hk
      exact ⟨pre, r, post, hpauses.past ▸ hr, hpause _ _ k h r post hpauses hp⟩

/-- Every indexed entity has a surviving declaration. -/
theorem run_declared (es : List Event) (k : Bytes) (h : Handle)
    (hk : (start.run es).session.tree.index.find? k = some h) :
    ∃ pre r post, Surviving (start.run es).past k h pre r post := by
  obtain ⟨pre, r, post, hr, -⟩ := run_surviving (P := fun _ _ _ _ _ => True)
    (fun _ _ _ _ _ _ _ _ => trivial) (fun _ _ _ _ _ _ _ => trivial)
    (fun _ _ _ _ _ _ _ _ _ _ _ _ => trivial) es hk
  exact ⟨pre, r, post, hr⟩

end Transcript

end DocPages
