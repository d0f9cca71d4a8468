import DocPages.Proofs.ConstructorMerging

/-!
# Accounting for Declarations

Every declaration line leaves a trace.  It puts a new key into the index, or replaces the entity of a
known key with a warning, or is merged into a constructor.  The index lists the keys in order of
their first declaration, and the entity under a key has what the last declaration of the key says,
down to the number of the physical line in its script.

## Main results

- `Session.step_order`, `Transcript.run_order`: the order of the index
- `Session.step_duplicates`, `Transcript.run_counts`: where every declaration is counted
- `Particulars`, `Transcript.run_particulars`: what an entity has from its declaration
- `exists_physical_line`: the physical line behind a reading
- `index_accounts_for_declarations`: the index of every accepted list of scripts
-/

namespace DocPages

open Log (Record)

/-! ## §1 The order of the index -/

/-- A new key is listed last; a known one keeps its place. -/
theorem Tree.Invariant.grow_order {t : Tree} (ht : t.Invariant) {e : Entity} {owner : Option Handle}
    (he : e.members = []) (ho : t.AdmitsKey owner e.key) :
    (t.grow e owner).order = if e.key ∈ t.order then t.order else t.order ++ [e.key] := by
  rw [(ht.grow_reassigned he ho).order, entity_create_self]
  exact if_congr (ht.mem_order_iff e.key).symm rfl rfl

theorem Tree.Invariant.size_eq {t : Tree} (ht : t.Invariant) : t.size = t.order.length := by
  rw [← ht.index_keys, List.length_map]
  rfl

theorem Tree.Invariant.has_iff {t : Tree} (ht : t.Invariant) (k : Bytes) :
    t.has k = true ↔ k ∈ t.order := (ht.mem_order_iff k).symm

namespace Session

variable {s : Session} {l : Line} {source : Bytes} {number : Nat}

/-- What a line does to the order: a key that it declares for the first time is listed last. -/
theorem step_order (ht : s.tree.Invariant) (hl : l.KeyForm) :
    (s.step l source number).tree.order =
      match s.created l with
      | none => s.tree.order
      | some k => if k ∈ s.tree.order then s.tree.order else s.tree.order ++ [k] := by
  rcases s.step_cases l source number with ⟨key, hkey, hnew, -, -, htree, -⟩ | ⟨hnone, -, htree, -⟩
  · rw [htree, hnew]
    exact ht.grow_order (s.newEntity_members l source number key) (ownerFor_admits ht hl hkey)
  · rw [htree, hnone]
    cases s.target l <;> rfl

end Session

/-- One more element at the end of a list is a new one or occurs before. -/
theorem eraseDups_append_singleton (l : List Bytes) (k : Bytes) :
    (l ++ [k]).eraseDups = if k ∈ l then l.eraseDups else l.eraseDups ++ [k] := by
  rw [List.eraseDups_append]
  by_cases hk : k ∈ l
  · simp [List.removeAll, hk]
  · simp [List.removeAll, hk, List.eraseDups_cons]

/-- The order of the index lists the keys under which lines made entities, each at its first
    occurrence. -/
theorem Transcript.run_order (es : List Event) :
    (start.run es).session.tree.order = ((start.run es).past.filterMap Reading.created).eraseDups := by
  refine run_of_tracks
    (P := fun g => g.session.tree.order = (g.past.filterMap Reading.created).eraseDups) rfl ?_ ?_ es
  · intro g source number l ht hl hg
    refine (Session.step_order ht.nested.invariant hl).trans ?_
    show _ = ((g.past ++ [g.reading source number l]).filterMap Reading.created).eraseDups
    have hcreated : (g.reading source number l).created = g.session.created l := rfl
    rw [List.filterMap_append]
    cases hnew : g.session.created l with
    | none => simpa [hcreated, hnew] using hg
    | some k =>
      -- the index knows a key exactly when an earlier line made an entity under it
      have hmem : k ∈ g.session.tree.order ↔ k ∈ g.past.filterMap Reading.created := by
        rw [hg, List.mem_eraseDups]
      have hone : [g.reading source number l].filterMap Reading.created = [k] := by
        simp [hcreated, hnew]
      rw [hone, eraseDups_append_singleton, ← hg]
      exact if_congr hmem rfl rfl
  · intro g g' hp hg
    obtain ⟨product, htree⟩ := hp.tree
    rw [htree, hp.past]
    exact hg

/-! ## §2 Counting -/

/-- The warning that a key was declared before. -/
def isDuplicateWarning (r : Record) : Bool :=
  decide (r.level = .warn) && r.message == bytes "duplicate key replaces earlier declaration"

namespace Session

variable {s : Session} {l : Line} {source : Bytes} {number : Nat}

/-- How often a session has warned of a key declared before. -/
def duplicates (s : Session) : Nat := s.records.countP isDuplicateWarning

/-- Whether a line replaces the entity of a known key. -/
def replaces (s : Session) (l : Line) : Bool := (s.created l).any s.tree.has

theorem duplicates_note (s : Session) (r : Record) :
    (s.note r).duplicates = s.duplicates + if isDuplicateWarning r then 1 else 0 := by
  simp [duplicates, note, List.countP_append, List.countP_singleton]

/-- A declaration warns when its key is known. -/
theorem duplicates_declare (s : Session) (e : Entity) (owner : Option Handle) :
    (s.declare e owner).duplicates = s.duplicates + if s.tree.has e.key then 1 else 0 := by
  -- the entity that is displaced is the one that the key stood for before
  have hold : ((s.tree.create e).1.attach s.tree.store.size owner).2 = s.tree.lookup? e.key := by
    have hlookup : (s.tree.create e).1.lookup? e.key = s.tree.lookup? e.key := rfl
    unfold Tree.attach
    dsimp only
    rw [Tree.entity_create_self, hlookup]
    split <;> simp [*]
  unfold declare Tree.has
  dsimp only
  rw [← hold]
  split
  · next hnone =>
    have hnone' : ((s.tree.create e).1.attach s.tree.store.size owner).2 = none := hnone
    simp [hnone', duplicates]
  · next old hsome =>
    have hsome' : ((s.tree.create e).1.attach s.tree.store.size owner).2 = some old := hsome
    rw [duplicates_note, hsome']
    rfl

/-- Looking for a class that is not there leaves another warning. -/
theorem duplicates_resolveOwner (s : Session) (d : Declaration) :
    (s.resolveOwner d source number).1.duplicates = s.duplicates := by
  have hother : isDuplicateWarning (ownerMissing d source number) = false := by
    simp only [isDuplicateWarning, ownerMissing, decide_true, Bool.true_and]
    decide
  unfold resolveOwner
  split
  · rfl
  · simp [duplicates_note, hother]

/-- A declaration that is not merged warns when it replaces the entity of a known key. -/
theorem duplicates_methodLine (static : Bool) (d : Declaration) :
    (s.methodLine static d source number).duplicates =
      s.duplicates + if s.tree.has d.key then 1 else 0 := by
  unfold methodLine
  dsimp only
  rw [duplicates_declare, duplicates_resolveOwner, resolveOwner_tree]

/-- A line warns of a key declared before exactly when it replaces the entity of a known key. -/
theorem step_duplicates :
    (s.step l source number).duplicates = s.duplicates + if s.replaces l then 1 else 0 := by
  cases l with
  | prose text =>
    have hnone : s.replaces (.prose text) = false := rfl
    simp only [step, proseLine, hnone]
    split <;> rfl
  | classLine key => exact s.duplicates_declare _ _
  | constructorLine d =>
    have htree := s.resolveOwner_tree source number d
    have howner := s.resolveOwner_snd source number d
    cases hmerge : (s.tree.class? d.classKey).bind s.tree.constructor? with
    | some h =>
      have hnone : s.replaces (.constructorLine d) = false := by
        simp [replaces, created, mergeTarget, ownerFor, Line.declaration?, hmerge]
      simp only [step, constructorLine, howner, htree, hmerge, hnone]
      exact s.duplicates_resolveOwner d
    | none =>
      have hreplaces : s.replaces (.constructorLine d) = s.tree.has d.key := by
        simp [replaces, created, mergeTarget, ownerFor, Line.declaration?, Line.key?, hmerge]
      simp only [step, constructorLine, howner, htree, hmerge, hreplaces]
      rw [duplicates_declare, duplicates_resolveOwner, htree]
  | instanceMethodLine d => exact duplicates_methodLine false d
  | classMethodLine d => exact duplicates_methodLine true d
  | noteLine n =>
    have hnone : s.replaces (.noteLine n) = false := rfl
    have hother : ∀ key, isDuplicateWarning (argumentUnknown n key source number) = false :=
      fun _ => rfl
    simp only [step, noteLine, hnone]
    split
    · rfl
    · split
      · rfl
      · split
        · rfl
        · simp [duplicates_note, hother]

/-- A line that makes an entity lengthens the index or is warned of, and no other line does either. -/
theorem step_size_add_duplicates (ht : s.tree.Invariant)
    (ht' : (s.step l source number).tree.Invariant) (hl : l.KeyForm) :
    (s.step l source number).tree.size + (s.step l source number).duplicates =
      s.tree.size + s.duplicates + if (s.created l).isSome then 1 else 0 := by
  rw [ht'.size_eq, ht.size_eq, step_order ht hl, step_duplicates, replaces]
  cases s.created l with
  | none => rfl
  | some key =>
    by_cases hknown : key ∈ s.tree.order
    · have hhas : s.tree.has key = true := (ht.has_iff key).2 hknown
      simp [hknown, hhas, Nat.add_assoc]
    · have hhas : s.tree.has key = false := Bool.eq_false_iff.2 (mt (ht.has_iff key).1 hknown)
      simp [hknown, hhas, Nat.add_right_comm]

/-- A declaration either makes an entity or is merged. -/
theorem declares_eq_created_add_merged (s : Session) (l : Line) :
    (if l.key?.isSome then 1 else 0) =
      (if (s.created l).isSome then 1 else 0) + if (s.mergeTarget l).isSome then 1 else 0 := by
  cases hmerge : s.mergeTarget l with
  | none => simp [created, hmerge]
  | some h =>
    -- only a constructor is merged, and a constructor has a key
    cases l with
    | constructorLine d => simp [created, hmerge, Line.key?, Line.declaration?]
    | _ => simp [mergeTarget] at hmerge

end Session

/-- Whether a line was merged into a constructor. -/
def Reading.isMerged (r : Reading) : Bool := r.merged.isSome

/-- Every declaration is counted once: as a key of the index, as a warning of a key declared before, or
    as merged. -/
def Transcript.Counts (g : Transcript) : Prop :=
  g.past.countP Reading.declares =
    g.session.tree.size + g.session.duplicates + g.past.countP Reading.isMerged

theorem Transcript.Counts.read {g : Transcript} (hg : g.Counts) (ht : g.Tracks) {l : Line}
    (hl : l.KeyForm) (source : Bytes) (number : Nat) : (g.read source number l).Counts := by
  have hstep : (g.read source number l).session.tree.size +
        (g.read source number l).session.duplicates =
      g.session.tree.size + g.session.duplicates + if (g.session.created l).isSome then 1 else 0 :=
    Session.step_size_add_duplicates ht.nested.invariant
      (ht.read hl source number).nested.invariant hl
  have hsplit := g.session.declares_eq_created_add_merged l
  have hdeclares : (g.reading source number l).declares = l.key?.isSome := rfl
  have hmerged : (g.reading source number l).isMerged = (g.session.mergeTarget l).isSome := rfl
  unfold Counts at hg ⊢
  show (g.past ++ [g.reading source number l]).countP Reading.declares =
    _ + (g.past ++ [g.reading source number l]).countP Reading.isMerged
  rw [List.countP_append, List.countP_append, List.countP_singleton, List.countP_singleton,
    hdeclares, hmerged]
  omega

theorem Transcript.run_counts (es : List Event) : (start.run es).Counts := by
  refine run_of_tracks (P := Counts) rfl
    (fun g source number l ht hl hg => hg.read ht hl source number) ?_ es
  intro g g' hp hg
  obtain ⟨product, htree⟩ := hp.tree
  unfold Counts Session.duplicates
  rw [htree, hp.past, hp.records]
  exact hg

/-! ## §3 What a declaration fixes -/

/-- The particulars of an entity: what its declaration fixes, as opposed to its text, the notes on its
    arguments, its forms and its members. -/
structure Particulars where
  key : Bytes
  kind : Kind
  source : Bytes
  line : Int
  /-- The declared arguments with their positions. -/
  arguments : List (Parameter × Int)
  returns : List Bytes

/-- The declared part of an argument. -/
def Argument.declared (a : Argument) : Parameter × Int := (⟨a.name, a.required, a.default⟩, a.number)

/-- The particulars that an entity has. -/
def Entity.particulars (e : Entity) : Particulars where
  key := e.key
  kind := e.kind
  source := e.source
  line := e.line
  arguments := (e.signature?.map fun s => s.arguments.map Argument.declared).getD []
  returns := (e.signature?.map Signature.returns).getD []

/-- The kind of entity that a line declares. -/
def Line.entityKind? : Line → Option Kind
  | classLine _ => some .classEntity
  | constructorLine _ => some .constructor
  | instanceMethodLine _ => some .instanceMethod
  | classMethodLine _ => some .classMethod
  | _ => none

/-- The particulars that a declaration of `key` as a `kind` states: its place, and the arguments,
    numbered from zero, and types of its result if it is no class. -/
def Reading.particulars (r : Reading) (key : Bytes) (kind : Kind) : Particulars where
  key := key
  kind := kind
  source := r.source
  line := r.number
  arguments := (r.line.declaration?.map fun d =>
    d.parameters.zipIdx.map fun p => (p.1, (p.2 : Int))).getD []
  returns := (r.line.declaration?.map Declaration.returns).getD []

/-- A note keeps the declared parts of the arguments. -/
theorem Signature.annotateFirst_map_declared (n : ArgumentNote) (arguments : List Argument) :
    (annotateFirst n arguments).map Argument.declared = arguments.map Argument.declared := by
  induction arguments with
  | nil => rfl
  | cons a rest ih =>
    unfold annotateFirst
    split
    · rfl
    · rw [List.map_cons, List.map_cons, ih]

theorem Session.numberArguments_map_declared (n : Nat) (parameters : List Parameter) :
    (numberArguments n parameters).map Argument.declared =
      (parameters.zipIdx n).map fun p => (p.1, (p.2 : Int)) := by
  induction parameters generalizing n with
  | nil => rfl
  | cons p rest ih =>
    rw [numberArguments, List.map_cons, ih, List.zipIdx_cons, List.map_cons]
    rfl

/-- No line changes where the entity that it revises was declared. -/
theorem Line.revise_place (l : Line) (e : Entity) :
    (l.revise e).source = e.source ∧ (l.revise e).line = e.line := by
  cases l with
  | noteLine n =>
    simp only [revise]
    split
    · exact ⟨rfl, rfl⟩
    · cases hb : e.body <;> simp [Entity.withSignature, hb]
  | constructorLine d => cases hb : e.body <;> simp [revise, Entity.addAlias, hb]
  | _ => exact ⟨rfl, rfl⟩

/-- No line changes the particulars of the entity that it revises. -/
theorem Line.revise_particulars (l : Line) (e : Entity) :
    (l.revise e).particulars = e.particulars := by
  obtain ⟨hsource, hline⟩ := l.revise_place e
  simp only [Entity.particulars, l.revise_keepsPlace.key, l.revise_kind, hsource, hline,
    l.revise_signature?]
  cases e.signature? with
  | none => rfl
  | some s =>
    cases l.note? with
    | none => rfl
    | some n => simp [Signature.annotateFirst_map_declared]

theorem Entity.particulars_eq_of_bare {e e' : Entity} (h : e.bare = e'.bare) :
    e.particulars = e'.particulars := by
  simp only [particulars, key_eq_of_bare h, kind_eq_of_bare h, source_eq_of_bare h,
    line_eq_of_bare h, signature?_eq_of_bare h]

/-- A new entity has the particulars that its declaration states. -/
theorem Session.newEntity_particulars (s : Session) (l : Line) (p : BlockPlace) (source : Bytes)
    (number : Nat) {key : Bytes} (hkey : l.key? = some key) :
    ∃ kind, l.entityKind? = some kind ∧ (s.newEntity l source number key).particulars =
      Reading.particulars ⟨p, source, number, l, s⟩ key kind := by
  cases l with
  | prose text => simp [Line.key?, Line.declaration?] at hkey
  | noteLine n => simp [Line.key?, Line.declaration?] at hkey
  | classLine k => exact ⟨_, rfl, rfl⟩
  | constructorLine d =>
    refine ⟨_, rfl, ?_⟩
    simp [Entity.particulars, Reading.particulars, newEntity, newBody, Entity.kind,
      Entity.signature?, signature, Line.declaration?, numberArguments_map_declared]
  | instanceMethodLine d =>
    refine ⟨_, rfl, ?_⟩
    simp [Entity.particulars, Reading.particulars, newEntity, newBody, Entity.kind,
      Entity.signature?, signature, Line.declaration?, numberArguments_map_declared]
  | classMethodLine d =>
    refine ⟨_, rfl, ?_⟩
    simp [Entity.particulars, Reading.particulars, newEntity, newBody, Entity.kind,
      Entity.signature?, signature, Line.declaration?, numberArguments_map_declared]

/-- Along every run an entity has the particulars that its surviving declaration states. -/
theorem Transcript.run_particulars (es : List Event) {k : Bytes} {h : Handle}
    (hk : (start.run es).session.tree.index.find? k = some h) :
    ∃ pre r post, Surviving (start.run es).past k h pre r post ∧
      ∃ kind, r.line.entityKind? = some kind ∧
        ((start.run es).session.tree.entity h).particulars = r.particulars k kind := by
  refine run_surviving (P := fun g k h r _ => ∃ kind, r.line.entityKind? = some kind ∧
    (g.session.tree.entity h).particulars = r.particulars k kind) ?_ ?_ ?_ es hk
  · intro g g' k h r post hp hdeclared
    obtain ⟨product, htree⟩ := hp.tree
    rw [htree]
    exact hdeclared
  · intro es source number l k hl hcreated
    obtain ⟨kind, hkind, hparticulars⟩ := (start.run es).session.newEntity_particulars l
      (start.run es).place source number (Session.key?_of_created hcreated)
    refine ⟨kind, hkind, ?_⟩
    exact (Entity.particulars_eq_of_bare (Session.step_bare_new hcreated)).trans hparticulars
  · -- a later line leaves the entity as it is, or revises it
    intro es source number l k h r post hl hk hcreated hdeclared
    have hlt := ((run_tracks es).nested.invariant.stored k h hk).1
    obtain ⟨kind, hkind, hparticulars⟩ := hdeclared
    refine ⟨kind, hkind, ?_⟩
    refine (Entity.particulars_eq_of_bare (Session.step_bare hlt)).trans ?_
    split
    · rw [l.revise_particulars, hparticulars]
    · exact hparticulars

/-! ## §4 Physical lines -/

/-- The physical line behind a block line: its number counts from the given one. -/
theorem exists_raw_of_mem_blockLinesFrom {inside : Bool} {number : Nat} {raws : List Bytes}
    {l : BlockLine} (hl : l ∈ blockLinesFrom inside number raws) :
    ∃ n raw, l.number = number + n ∧ raws[n]? = some raw ∧ l.text = stripDecoration (trim raw) := by
  induction raws generalizing inside number with
  | nil => simp [blockLinesFrom] at hl
  | cons raw rest ih =>
    have hlater : ∀ {inside' : Bool}, l ∈ blockLinesFrom inside' (number + 1) rest →
        ∃ n raw', l.number = number + n ∧ (raw :: rest)[n]? = some raw' ∧
          l.text = stripDecoration (trim raw') := by
      intro inside' hl'
      obtain ⟨n, raw', hnumber, hraw, htext⟩ := ih hl'
      exact ⟨n + 1, raw', by omega, by simpa using hraw, htext⟩
    unfold blockLinesFrom at hl
    dsimp only at hl
    split at hl
    · rcases List.mem_cons.1 hl with rfl | hl'
      · exact ⟨0, raw, rfl, rfl, rfl⟩
      · exact hlater hl'
    · exact hlater hl

theorem mem_of_mem_placeLines {p : BlockPlace} {source : Bytes} {ls : List BlockLine}
    {l : PlacedLine} (hl : l ∈ placeLines p source ls) : l.source = source ∧ l.line ∈ ls := by
  induction ls generalizing p with
  | nil => simp [placeLines] at hl
  | cons l' rest ih =>
    rcases List.mem_cons.1 hl with rfl | hl
    · exact ⟨rfl, List.mem_cons_self⟩
    · exact ⟨(ih hl).1, List.mem_cons_of_mem _ (ih hl).2⟩

theorem exists_script_of_mem_placedLines {position : Nat} {scripts : List Script} {l : PlacedLine}
    (hl : l ∈ placedLines position scripts) :
    ∃ script ∈ scripts, l.source = script.name ∧ l.line ∈ blockLines script.text := by
  induction scripts generalizing position with
  | nil => simp [placedLines] at hl
  | cons script rest ih =>
    rcases List.mem_append.1 hl with hl | hl
    · exact ⟨script, List.mem_cons_self, mem_of_mem_placeLines hl⟩
    · obtain ⟨script', hmem, hline⟩ := ih hl
      exact ⟨script', List.mem_cons_of_mem _ hmem, hline⟩

/-- The physical line behind a reading: it is a line of a script of the recorded name, at the recorded
    number counted from one, and trimmed and without its decoration it is read as the recorded
    line. -/
theorem exists_physical_line {scripts : List Script} (hreadable : ∀ e ∈ events scripts, e.Readable)
    {r : Reading} (hr : r ∈ readings scripts) :
    ∃ script ∈ scripts, script.name = r.source ∧ ∃ n raw, r.number = n + 1 ∧
      (Bytes.splitOn 0x0A script.text)[n]? = some raw ∧
      Line.classify (stripDecoration (trim raw)) = .ok r.line := by
  obtain ⟨l, hl, hreads⟩ := exists_of_forall₂_of_mem (readings_eq_blockLines hreadable).flip hr
  obtain ⟨script, hscript, hsource, hline⟩ := exists_script_of_mem_placedLines hl
  obtain ⟨n, raw, hnumber, hraw, htext⟩ := exists_raw_of_mem_blockLinesFrom hline
  refine ⟨script, hscript, hsource.symm.trans hreads.source.symm, n, raw, ?_, hraw, ?_⟩
  · rw [hreads.number, hnumber, Nat.add_comm]
  · rw [← htext]
    exact hreads.line

/-! ## §5 The index of an accepted list of scripts -/

/-- What an accepted list of scripts has recorded: the records of its run, and that of its end. -/
theorem parseScripts_duplicates {scripts : List Script} {t : Tree}
    (h : (parseScripts scripts).1 = .ok t) :
    (parseScripts scripts).2.countP isDuplicateWarning =
      (Session.start.run (events scripts)).duplicates := by
  unfold parseScripts at h ⊢
  split at h
  · simp at h
  · next s hscripts =>
    obtain ⟨rfl, -⟩ := Session.readScripts_eq_none hscripts
    have hend : ∀ n t, isDuplicateWarning (scriptsParsed n t) = false := fun _ _ => rfl
    simp [List.countP_append, hend, Session.duplicates]

/-- **Accounting**: the index of an accepted list of scripts lists the distinct keys of the
    declarations that are not merged, in order of first occurrence.  The entity under a key has the
    particulars that the last of these declarations of the key states, and the physical line at that
    place declares that kind and key.  Every declaration is counted once, as an entity, as a warning
    of a key declared before, or as merged. -/
theorem index_accounts_for_declarations (scripts : List Script) (t : Tree)
    (hparse : (parseScripts scripts).1 = .ok t) :
    List.Forall₂ Reading.Reads (readings scripts) (placedLines 0 scripts) ∧
    (t.entities.map fun h => (t.entity h).key) =
      ((readings scripts).filterMap Reading.created).eraseDups ∧
    (∀ k h, t.lookup? k = some h → ∃ pre r post kind, readings scripts = pre ++ r :: post ∧
      r.created = some k ∧ (∀ r' ∈ post, r'.created ≠ some k) ∧
      (t.entity h).particulars = r.particulars k kind ∧
      ∃ script ∈ scripts, script.name = (t.entity h).source ∧ ∃ (n : Nat) (raw : Bytes),
        (t.entity h).line = n + 1 ∧ (Bytes.splitOn 0x0A script.text)[n]? = some raw ∧
        Line.classify (stripDecoration (trim raw)) = .ok r.line ∧
        r.line.entityKind? = some kind ∧ r.line.key? = some k) ∧
    (readings scripts).countP Reading.declares =
      t.size + (parseScripts scripts).2.countP isDuplicateWarning +
        (readings scripts).countP Reading.isMerged := by
  have hreadable := (parseScripts_eq_ok hparse).2
  have hduplicates := parseScripts_duplicates hparse
  obtain rfl := parseScripts_eq_transcript hparse
  refine ⟨readings_eq_blockLines hreadable, ?_, ?_, ?_⟩
  · rw [(Transcript.run_tracks (events scripts)).nested.invariant.entities_map_key]
    exact Transcript.run_order (events scripts)
  · intro k h hk
    obtain ⟨pre, r, post, hr, kind, hkind, hparticulars⟩ :=
      Transcript.run_particulars (events scripts) hk
    have hmem : r ∈ readings scripts := by
      unfold readings
      rw [hr.split]
      exact List.mem_append_right _ List.mem_cons_self
    obtain ⟨script, hscript, hname, n, raw, hnumber, hraw, hline⟩ :=
      exists_physical_line hreadable hmem
    refine ⟨pre, r, post, kind, hr.split, hr.created, hr.last, hparticulars, script, hscript, ?_,
      n, raw, ?_, hraw, hline, hkind, Session.key?_of_created hr.created⟩
    · exact hname.trans (congrArg Particulars.source hparticulars).symm
    · have hplace : ((Transcript.start.run (events scripts)).session.tree.entity h).line =
          (r.number : Int) := congrArg Particulars.line hparticulars
      rw [hplace, hnumber]
      rfl
  · have hsession : (Transcript.start.run (events scripts)).session =
        Session.start.run (events scripts) := Transcript.run_session _ _
    rw [hduplicates, ← hsession]
    exact Transcript.run_counts (events scripts)

/-- Five declarations of two keys: two entities, two warnings and one merged line.  The constructor has
    the arguments of its last declaration and stands where its first one put it. -/
theorem accounting_of_redeclarations :
    let scripts : List Script :=
      [⟨bytes "a.js", bytes "/*?\n * new Foo(a)\n * class Foo\n**/"⟩,
        ⟨bytes "b.js", bytes "\n/*?\n * class Foo\n * new Foo(b[, c = 1])\n createFoo()\n**/"⟩]
    ∃ t, (parseScripts scripts).1 = .ok t ∧ t.size = 2 ∧
      ((readings scripts).filterMap Reading.created).eraseDups = [bytes "new Foo", bytes "Foo"] ∧
      (readings scripts).countP Reading.declares =
        2 + (parseScripts scripts).2.countP isDuplicateWarning +
          (readings scripts).countP Reading.isMerged ∧
      ∃ r ∈ readings scripts, r.created = some (bytes "new Foo") ∧ r.source = bytes "b.js" ∧
        r.number = 4 := by
  intro scripts
  have hview : (parseScripts scripts).1.toOption.map (fun t => (t.size,
        t.entities.map fun h => (t.entity h).key, t.lookup? (bytes "new Foo"),
        ((t.entity 3).source, (t.entity 3).line))) =
      some (2, [bytes "new Foo", bytes "Foo"], some 3, (bytes "b.js", 4)) := by
    decide
  obtain ⟨t, hparse, hentity⟩ := exists_tree_of_view hview
  simp only [Prod.mk.injEq] at hentity
  obtain ⟨hsize, hkeys, hlookup, hsource, hline⟩ := hentity
  obtain ⟨-, horder, hlast, hcount⟩ := index_accounts_for_declarations scripts t hparse
  obtain ⟨pre, r, post, kind, hsplit, hcreated, -, hparticulars, -⟩ := hlast _ 3 hlookup
  refine ⟨t, hparse, hsize, horder ▸ hkeys, hsize ▸ hcount, r, by simp [hsplit], hcreated, ?_, ?_⟩
  · exact (congrArg Particulars.source hparticulars).symm.trans hsource
  · have hnumber : (r.number : Int) = 4 :=
      (congrArg Particulars.line hparticulars).symm.trans hline
    exact_mod_cast hnumber

end DocPages
