import DocPages.Proofs.Ownership

/-!
# Merging of Constructors

A class has one constructor, however many ways there are of calling it: the first constructor line
of a class makes it, and every later one adds a form.  The forms of a constructor are therefore the
keys of the constructor lines of its class, from the line that made it on.  Declaring the class again
passes the constructor on; only a declaration that takes its own key, or that takes the key of the
class without being a class, parts them.

## Main results

- `Tree.Constructs`: a constructor that a class owns
- `Session.mergeTarget_constructs`, `Session.mergeTarget_of_constructs`: a constructor line is merged
  exactly when its class owns a constructor
- `Transcript.run_single`: no class owns two constructors
- `Transcript.Formed`, `Transcript.run_forms`, `Transcript.run_keeps_constructor`: the forms of a
  constructor along a run
- `constructors_merged`: constructors of every accepted list of scripts
-/

namespace DocPages

/-! ## §1 Constructors of a class -/

/-- The form of calling the constructor of the class `K` that a line declares. -/
def Line.constructorForm? (l : Line) (K : Bytes) : Option Bytes :=
  match l with
  | .constructorLine d => if d.classKey = K then some d.key else none
  | _ => none

/-- The forms of calling the constructor of the class `K` that some lines declare, in order. -/
def constructorForms (K : Bytes) (rs : List Reading) : List Bytes :=
  rs.filterMap fun r => r.line.constructorForm? K

theorem constructorForms_snoc (K : Bytes) (rs : List Reading) (r : Reading) :
    constructorForms K (rs ++ [r]) = constructorForms K rs ++ (r.line.constructorForm? K).toList := by
  unfold constructorForms
  rw [List.filterMap_append]
  cases h : r.line.constructorForm? K <;> simp [h]

/-- The entity `h` stands for the key `k` and is a constructor that the class `K` owns. -/
structure Tree.Constructs (t : Tree) (K k : Bytes) (h : Handle) : Prop where
  indexed : t.index.find? k = some h
  kind : (t.entity h).kind = .constructor
  owner : t.ownerKey? k = some K

/-- No class owns two constructors. -/
def Tree.Single (t : Tree) : Prop :=
  ∀ K k k' h h', t.Constructs K k h → t.Constructs K k' h' → h = h'

/-- A member of an indexed class that is a constructor is one that the class owns. -/
theorem Tree.Invariant.constructs_of_mem {t : Tree} (ht : t.Invariant) {K : Bytes} {c m : Handle}
    (hc : t.index.find? K = some c) (hm : m ∈ (t.entity c).members)
    (hkind : (t.entity m).kind = .constructor) : t.Constructs K (t.entity m).key m := by
  obtain ⟨hindex, howner⟩ := (ht.mem_members_iff hc m).1 hm
  refine ⟨hindex, hkind, ?_⟩
  rw [ownerKey?, (ht.owner?_eq_iff hindex (some c)).2 howner]
  exact congrArg some (ht.stored K c hc).2

/-! ## §2 What a line does to constructors -/

/-- No line changes the kind of the entity that it revises. -/
theorem Line.revise_kind (l : Line) (e : Entity) : (l.revise e).kind = e.kind := by
  cases l with
  | noteLine n =>
    simp only [revise]
    split
    · rfl
    · cases hb : e.body with
      | methodBody static _ => cases static <;> simp [Entity.withSignature, Entity.kind, hb]
      | _ => simp [Entity.withSignature, Entity.kind, hb]
  | constructorLine d => cases hb : e.body <;> simp [revise, Entity.addAlias, Entity.kind, hb]
  | _ => rfl

/-- Only a constructor line adds a form, and only to a constructor. -/
theorem Line.revise_aliases (l : Line) (e : Entity) :
    (l.revise e).aliases = e.aliases ++
      match l with
      | .constructorLine d => if e.kind = .constructor then [d.key] else []
      | _ => [] := by
  cases l with
  | noteLine n =>
    simp only [revise, List.append_nil]
    split
    · rfl
    · cases hb : e.body <;> simp [Entity.withSignature, Entity.aliases, hb]
  | constructorLine d =>
    cases hb : e.body with
    | methodBody static _ =>
      cases static <;> simp [revise, Entity.addAlias, Entity.aliases, Entity.kind, hb]
    | _ => simp [revise, Entity.addAlias, Entity.aliases, Entity.kind, hb]
  | _ => simp [revise, Entity.aliases, Entity.appendLine]

namespace Session

variable {s : Session} {l : Line} {source : Bytes} {number : Nat}

/-- No line changes the kind of an entity that is already there. -/
theorem step_kind {x : Handle} (hx : x < s.tree.store.size) :
    ((s.step l source number).tree.entity x).kind = (s.tree.entity x).kind := by
  rw [Entity.kind_eq_of_bare (step_bare hx)]
  split
  · exact l.revise_kind _
  · rfl

/-- A line is merged into a constructor that the class it names owns. -/
theorem mergeTarget_constructs (ht : s.tree.Invariant) {h : Handle}
    (hmerge : s.mergeTarget l = some h) :
    ∃ d, l = .constructorLine d ∧ s.tree.Constructs d.classKey (s.tree.entity h).key h := by
  cases l with
  | constructorLine d =>
    obtain ⟨c, hc, hconstructor⟩ := Option.bind_eq_some_iff.1 hmerge
    have hclass : s.tree.class? d.classKey = some c := hc
    have hkind : (s.tree.entity h).kind = .constructor := by
      unfold Tree.constructor? at hconstructor
      simpa using List.find?_some hconstructor
    exact ⟨d, rfl, ht.constructs_of_mem ((ht.class_iff _ c).1 hclass).1
      (List.mem_of_find?_eq_some hconstructor) hkind⟩
  | _ => simp [mergeTarget] at hmerge

/-- A constructor line whose class owns a constructor is merged. -/
theorem mergeTarget_of_constructs (ht : s.tree.Invariant) {d : Declaration} {k : Bytes} {h : Handle}
    (hc : s.tree.Constructs d.classKey k h) : ∃ h', s.mergeTarget (.constructorLine d) = some h' := by
  obtain ⟨c, hclass, howner⟩ := ht.class?_of_ownerKey? hc.owner
  have hkey : (s.tree.entity h).key = k := (ht.stored k h hc.indexed).2
  have hmem : h ∈ (s.tree.entity c).members := by
    rw [ht.mem_members_iff ((ht.class_iff _ c).1 hclass).1, hkey]
    exact ⟨hc.indexed, howner⟩
  cases hfind : s.tree.constructor? c with
  | some h' => exact ⟨h', by simp [mergeTarget, ownerFor, Line.declaration?, hclass, hfind]⟩
  | none => exact absurd (decide_eq_true hc.kind) (List.find?_eq_none.1 hfind h hmem)

/-- A line adds its key to the forms of the constructor that it is merged into. -/
theorem step_aliases (ht : s.tree.Invariant) {x : Handle} (hx : x < s.tree.store.size) :
    ((s.step l source number).tree.entity x).aliases =
      (s.tree.entity x).aliases ++ if s.mergeTarget l = some x then l.key?.toList else [] := by
  rw [Entity.aliases_eq_of_bare (step_bare hx)]
  by_cases hmerge : s.mergeTarget l = some x
  · obtain ⟨d, rfl, hc⟩ := mergeTarget_constructs ht hmerge
    have htarget : s.target (.constructorLine d) = some x := hmerge
    rw [if_pos htarget, if_pos hmerge, Line.revise_aliases]
    simp only [hc.kind, if_true]
    rfl
  · rw [if_neg hmerge, List.append_nil]
    split
    · -- what else a line revises gets no form
      next htarget =>
      rw [Line.revise_aliases]
      cases l with
      | constructorLine d => exact absurd htarget hmerge
      | _ => exact List.append_nil _
    · rfl

/-- A constructor of a class after a line is the one that the line has made, or it was one before. -/
theorem constructs_of_step (ht : s.tree.Invariant) (hl : l.KeyForm) {K k : Bytes} {h : Handle}
    (hc : (s.step l source number).tree.Constructs K k h) :
    (h = s.tree.store.size ∧ s.created l = some k ∧
      ∃ d, l = .constructorLine d ∧ d.key = k ∧ d.classKey = K) ∨
    (s.created l ≠ some k ∧ s.tree.Constructs K k h) := by
  have hindex := hc.indexed
  have howner := hc.owner
  rw [step_index ht hl] at hindex
  rw [step_ownerKey? ht hl] at howner
  by_cases hcreated : s.created l = some k
  · rw [if_pos hcreated] at hindex howner
    obtain rfl : s.tree.store.size = h := Option.some.inj hindex
    refine Or.inl ⟨rfl, hcreated, ?_⟩
    have hkind := hc.kind
    rw [Entity.kind_eq_of_bare (step_bare_new hcreated)] at hkind
    rw [ownerFor_map_key ht] at howner
    cases l with
    | constructorLine d =>
      obtain ⟨d', hd', hclass⟩ := Option.bind_eq_some_iff.1 howner
      obtain rfl : d = d' := Option.some.inj hd'
      obtain ⟨o, -, hK⟩ := Option.map_eq_some_iff.1 hclass
      exact ⟨d, rfl, Option.some.inj (key?_of_created hcreated), hK⟩
    | _ => simp [newEntity, newBody, Entity.kind] at hkind
  · rw [if_neg hcreated] at hindex howner
    refine Or.inr ⟨hcreated, hindex, ?_, ?_⟩
    · rw [← step_kind (ht.stored k h hindex).1]
      exact hc.kind
    · split at howner
      · simp at howner
      · exact howner

/-- A class keeps its constructor when a line takes neither the key of the constructor nor, without
    declaring a class, that of the class. -/
theorem step_constructs (ht : s.tree.Invariant) (hl : l.KeyForm) {K k : Bytes} {h : Handle}
    (hc : s.tree.Constructs K k h) (hcreated : s.created l ≠ some k) (husurps : s.usurps l ≠ some K) :
    (s.step l source number).tree.Constructs K k h where
  indexed := by
    rw [step_index ht hl, if_neg hcreated]
    exact hc.indexed
  kind := by
    rw [step_kind (ht.stored k h hc.indexed).1]
    exact hc.kind
  owner := by
    rw [step_ownerKey? ht hl, if_neg hcreated, hc.owner, if_neg husurps]

/-- Declaring a class again takes no key of a constructor that the class owns, and usurps none. -/
theorem classLine_takes_nothing (ht : s.tree.Invariant) {K k : Bytes} {h : Handle}
    (hc : s.tree.Constructs K k h) :
    s.created (.classLine K) ≠ some k ∧ s.usurps (.classLine K) ≠ some K := by
  obtain ⟨o, hclass, howner⟩ := ht.class?_of_ownerKey? hc.owner
  have hkey : (s.tree.entity o).key = K := (ht.stored K o ((ht.class_iff K o).1 hclass).1).2
  have hne : K ≠ k := hkey ▸ (ht.owner_indexed k o howner).2
  exact ⟨fun h => hne (Option.some.inj h), nofun⟩

/-- One line keeps that no class owns two constructors. -/
theorem step_single (ht : s.tree.Invariant) (hl : l.KeyForm) (hs : s.tree.Single) :
    (s.step l source number).tree.Single := by
  -- a line that makes a constructor for a class was not merged, so the class owned none before
  have hnew : ∀ {k k' h' : _} {d : Declaration}, l = .constructorLine d → s.created l = some k →
      ¬ s.tree.Constructs d.classKey k' h' := by
    rintro k k' h' d rfl hcreated hc
    obtain ⟨h'', hmerge⟩ := mergeTarget_of_constructs ht hc
    simp [created, hmerge] at hcreated
  intro K k k' h h' hc hc'
  rcases constructs_of_step ht hl hc with ⟨rfl, hcreated, d, hline, -, rfl⟩ | ⟨-, hold⟩
  · rcases constructs_of_step ht hl hc' with ⟨rfl, -⟩ | ⟨-, hold'⟩
    · rfl
    · exact absurd hold' (hnew hline hcreated)
  · rcases constructs_of_step ht hl hc' with ⟨-, hcreated, d, hline, -, rfl⟩ | ⟨-, hold'⟩
    · exact absurd hold (hnew hline hcreated)
    · exact hs K k k' h h' hold hold'

/-- The forms that a line adds to the constructor of a class are those that it declares for the
    class. -/
theorem step_forms (ht : s.tree.Invariant) (hs : s.tree.Single) {K k : Bytes} {h : Handle}
    (hc : s.tree.Constructs K k h) :
    ((s.step l source number).tree.entity h).aliases =
      (s.tree.entity h).aliases ++ (l.constructorForm? K).toList := by
  obtain ⟨hlt, hkey⟩ := ht.stored k h hc.indexed
  rw [step_aliases ht hlt]
  congr 1
  split
  · -- merged into `h`: the class that the line names is the owner of `h`
    next hmerge =>
    obtain ⟨d, rfl, hd⟩ := mergeTarget_constructs ht hmerge
    obtain rfl : d.classKey = K := by
      have howner := hd.owner
      rw [hkey, hc.owner] at howner
      exact (Option.some.inj howner).symm
    simp [Line.constructorForm?, Line.key?, Line.declaration?]
  · -- a constructor line of the class would be merged into its only constructor
    next hmerge =>
    cases l with
    | constructorLine d =>
      have hne : d.classKey ≠ K := by
        rintro rfl
        obtain ⟨h', hmerge'⟩ := mergeTarget_of_constructs ht hc
        obtain ⟨d', hline, hc'⟩ := mergeTarget_constructs ht hmerge'
        obtain rfl : d = d' := Line.constructorLine.inj hline
        exact hmerge (hs _ _ _ _ _ hc hc' ▸ hmerge')
      simp [Line.constructorForm?, hne]
    | _ => rfl

end Session

/-! ## §3 Constructors along a run -/

namespace Transcript

/-- At every point of every run no class owns two constructors. -/
theorem run_single (es : List Event) : (start.run es).session.tree.Single := by
  refine run_of_tracks (P := fun g => g.session.tree.Single) ?_ ?_ ?_ es
  · intro K k k' h h' hc
    have hindex := hc.indexed
    simp [start, Session.start, Tree.empty] at hindex
  · intro g source number l ht hl hg
    exact Session.step_single ht.nested.invariant hl hg
  · intro g g' hp hg K k k' h h' hc hc'
    obtain ⟨product, htree⟩ := hp.tree
    rw [htree] at hc hc'
    exact hg K k k' h h' ⟨hc.indexed, hc.kind, hc.owner⟩ ⟨hc'.indexed, hc'.kind, hc'.owner⟩

/-- The forms of the entity `h` under the key `k`, declared by the line `r` and followed by the lines
    `post`: a constructor has its key first, and one that a class owns has the forms of all
    constructor lines of that class since. -/
def Formed (g : Transcript) (k : Bytes) (h : Handle) (r : Reading) (post : List Reading) : Prop :=
  ((g.session.tree.entity h).kind = .constructor →
    (g.session.tree.entity h).aliases.head? = some k) ∧
  ∀ K, g.session.tree.Constructs K k h →
    (g.session.tree.entity h).aliases = constructorForms K (r :: post)

/-- A new constructor has one form, its key. -/
theorem formed_new (es : List Event) (source : Bytes) (number : Nat) {l : Line} {k : Bytes}
    (hl : l.KeyForm) (hcreated : (start.run es).session.created l = some k) :
    ((start.run es).read source number l).Formed k (start.run es).session.tree.store.size
      ((start.run es).reading source number l) [] := by
  have ht := (run_tracks es).nested.invariant
  have hbare : (((start.run es).read source number l).session.tree.entity
      (start.run es).session.tree.store.size).bare =
        ((start.run es).session.newEntity l source number k).bare :=
    Session.step_bare_new hcreated
  have haliases : ∀ d, l = .constructorLine d → d.key = k →
      (((start.run es).read source number l).session.tree.entity
        (start.run es).session.tree.store.size).aliases = [k] := by
    rintro d rfl rfl
    exact Entity.aliases_eq_of_bare hbare
  constructor
  · intro hkind
    have hkind' := (Entity.kind_eq_of_bare hbare).symm.trans hkind
    cases l with
    | constructorLine d =>
      rw [haliases d rfl (Option.some.inj (Session.key?_of_created hcreated))]
      rfl
    | _ => simp [Session.newEntity, Session.newBody, Entity.kind] at hkind'
  · intro K hc
    rcases Session.constructs_of_step ht hl hc with ⟨-, -, d, hline, hkey, hK⟩ | ⟨hne, -⟩
    · rw [haliases d hline hkey]
      simp [constructorForms, reading, Line.constructorForm?, hline, hkey, hK]
    · exact absurd hcreated hne

/-- A later line adds the form that it declares of the class, if any, at the end. -/
theorem formed_keep (es : List Event) (source : Bytes) (number : Nat) {l : Line} {k : Bytes}
    {h : Handle} (hl : l.KeyForm) (hk : (start.run es).session.tree.index.find? k = some h)
    (hcreated : (start.run es).session.created l ≠ some k) {r : Reading} {post : List Reading}
    (hforms : (start.run es).Formed k h r post) :
    ((start.run es).read source number l).Formed k h r
      (post ++ [(start.run es).reading source number l]) := by
  have ht := (run_tracks es).nested.invariant
  have hlt := (ht.stored k h hk).1
  constructor
  · intro hkind
    have hhead := hforms.1 ((Session.step_kind hlt).symm.trans hkind)
    refine (congrArg List.head? (Session.step_aliases ht hlt)).trans ?_
    rw [List.head?_append, hhead, Option.some_or]
  · intro K hc
    rcases Session.constructs_of_step ht hl hc with ⟨-, hsome, -⟩ | ⟨-, hold⟩
    · exact absurd hsome hcreated
    · -- the class owns no other constructor that the line could have gone to
      refine (Session.step_forms ht (run_single es) hold).trans ?_
      rw [hforms.2 K hold, ← List.cons_append, constructorForms_snoc]
      rfl

/-- Along every run the first form of a constructor is its key, and the forms of a constructor that a
    class owns are those that lines declare for the class from the surviving declaration on. -/
theorem run_forms (es : List Event) {k : Bytes} {h : Handle}
    (hk : (start.run es).session.tree.index.find? k = some h) :
    ∃ pre r post, Surviving (start.run es).past k h pre r post ∧
      (start.run es).Formed k h r post := by
  refine run_surviving (P := Formed) ?_ ?_ ?_ es hk
  · intro g g' k h r post hp hforms
    obtain ⟨product, htree⟩ := hp.tree
    unfold Formed
    rw [htree]
    exact ⟨hforms.1, fun K hc => hforms.2 K ⟨hc.indexed, hc.kind, hc.owner⟩⟩
  · intro es source number l k hl hcreated
    exact formed_new es source number hl hcreated
  · intro es source number l k h r post hl hk hcreated hforms
    exact formed_keep es source number hl hk hcreated hforms

/-- A class that owns a constructor before the line `r` still owns it after the lines from `r` on, with
    the forms that these lines add, if none of them takes the key of the constructor or, without
    declaring a class, that of the class. -/
theorem run_keeps_constructor (es : List Event) {pre post : List Reading} {r : Reading}
    (hpast : (start.run es).past = pre ++ r :: post) {K k : Bytes} {h : Handle}
    (hc : r.before.tree.Constructs K k h)
    (htaken : ∀ r' ∈ r :: post, r'.created ≠ some k ∧ r'.usurped ≠ some K) :
    (start.run es).session.tree.Constructs K k h ∧
      ((start.run es).session.tree.entity h).aliases =
        (r.before.tree.entity h).aliases ++ constructorForms K (r :: post) := by
  -- from the end of the run: its last event has read `r`, or a line after `r`, or nothing
  induction es using List.reverseRecOn generalizing post with
  | nil => simp [start] at hpast
  | append_singleton es e ih =>
    rw [run_append, run_cons, run_nil] at hpast ⊢
    rcases (start.run es).next_cases e with ⟨source, number, l, hl, hnext⟩ | hpauses
    · have ht := (run_tracks es).nested.invariant
      rw [hnext] at hpast ⊢
      rcases append_singleton_split hpast with ⟨-, rfl, rfl⟩ | ⟨post', hsplit, rfl⟩
      · obtain ⟨hcreated, husurped⟩ := htaken _ (List.mem_singleton_self _)
        refine ⟨Session.step_constructs ht hl hc hcreated husurped, ?_⟩
        exact (Session.step_forms ht (run_single es) hc).trans
          (congrArg _ (constructorForms_snoc K [] ((start.run es).reading source number l)).symm)
      · rw [← List.cons_append, List.forall_mem_append, List.forall_mem_singleton] at htaken
        obtain ⟨hbefore, hcreated, husurped⟩ := htaken
        obtain ⟨hold, haliases⟩ := ih hsplit hbefore
        refine ⟨Session.step_constructs ht hl hold hcreated husurped, ?_⟩
        refine (Session.step_forms ht (run_single es) hold).trans ?_
        rw [haliases, List.append_assoc, ← List.cons_append, constructorForms_snoc]
        rfl
    · obtain ⟨hold, haliases⟩ := ih (hpauses.past ▸ hpast) htaken
      obtain ⟨product, htree⟩ := hpauses.tree
      rw [htree]
      exact ⟨⟨hold.indexed, hold.kind, hold.owner⟩, haliases⟩

end Transcript

/-- In a tree where no class owns two constructors, no class has two among its members. -/
theorem Tree.Single.membersOf_length_le {t : Tree} (hs : t.Single) (ht : t.Invariant) {c : Handle}
    (hc : c ∈ t.entities) : (t.membersOf c .constructor).length ≤ 1 := by
  have hindex := (ht.mem_entities_iff c).1 hc
  have hnodup : (t.membersOf c .constructor).Nodup := (ht.members_nodup hindex).filter _
  have heq : ∀ m ∈ t.membersOf c .constructor, ∀ m' ∈ t.membersOf c .constructor, m = m' := by
    intro m hm m' hm'
    obtain ⟨hmem, hkind⟩ := List.mem_filter.1 hm
    obtain ⟨hmem', hkind'⟩ := List.mem_filter.1 hm'
    exact hs _ _ _ _ _ (ht.constructs_of_mem hindex hmem (of_decide_eq_true hkind))
      (ht.constructs_of_mem hindex hmem' (of_decide_eq_true hkind'))
  match hl : t.membersOf c .constructor with
  | [] => simp
  | [m] => simp
  | m :: m' :: rest =>
    -- two constructors would be one and the same
    rw [hl] at hnodup heq
    obtain rfl := heq m (by simp) m' (by simp)
    simp at hnodup

/-- **Merging of constructors**: in the tree of an accepted list of scripts a class has at most one
    constructor.  The first form of a constructor is its key, and the forms of one that a class owns
    are the keys of the constructor lines of that class from the surviving declaration on.  A line
    that declares the class again leaves the class its constructor with all its forms, and the class
    still has it at the end if no later line takes the key of either. -/
theorem constructors_merged (scripts : List Script) (t : Tree)
    (hparse : (parseScripts scripts).1 = .ok t) :
    List.Forall₂ Reading.Reads (readings scripts) (placedLines 0 scripts) ∧
    (∀ c ∈ t.entities, (t.membersOf c .constructor).length ≤ 1) ∧
    (∀ h ∈ t.entities, (t.entity h).kind = .constructor →
      (t.entity h).aliases.head? = some (t.entity h).key ∧
      ∀ c, t.owner? (t.entity h).key = some c →
        ∃ pre r post, Surviving (readings scripts) (t.entity h).key h pre r post ∧
          (t.entity h).aliases = constructorForms (t.entity c).key (r :: post)) ∧
    ∀ pre r post K k h, readings scripts = pre ++ r :: post → r.line = .classLine K →
      r.before.tree.Constructs K k h →
        r.after.tree.Constructs K k h ∧
        (r.after.tree.entity h).aliases = (r.before.tree.entity h).aliases ∧
        ((∀ r' ∈ post, r'.created ≠ some k ∧ r'.usurped ≠ some K) →
          t.Constructs K k h ∧
          (t.entity h).aliases = (r.before.tree.entity h).aliases ++ constructorForms K post) := by
  have hreadable := (parseScripts_eq_ok hparse).2
  obtain rfl := parseScripts_eq_transcript hparse
  have ht := (Transcript.run_tracks (events scripts)).nested.invariant
  refine ⟨readings_eq_blockLines hreadable, ?_, ?_, ?_⟩
  · intro c hc
    exact (Transcript.run_single (events scripts)).membersOf_length_le ht hc
  · intro h hmem hkind
    have hindex := (ht.mem_entities_iff h).1 hmem
    obtain ⟨pre, r, post, hr, hhead, hforms⟩ := Transcript.run_forms (events scripts) hindex
    refine ⟨hhead hkind, fun c hc => ⟨pre, r, post, hr, hforms _ ⟨hindex, hkind, ?_⟩⟩⟩
    rw [Tree.ownerKey?, hc]
    rfl
  · intro pre r post K k h hsplit hline hc
    obtain ⟨hl, es, hes⟩ := Transcript.exists_run_of_split (events scripts) hsplit
    have hbefore : r.before = (Transcript.start.run es).session := by rw [hes]
    have ht' : r.before.tree.Invariant := by
      rw [hbefore]
      exact (Transcript.run_tracks es).nested.invariant
    obtain ⟨hcreated, husurps⟩ := Session.classLine_takes_nothing ht' hc
    rw [← hline] at hcreated husurps
    refine ⟨Session.step_constructs ht' hl hc hcreated husurps, ?_, ?_⟩
    · refine (Session.step_forms ht' (hbefore ▸ Transcript.run_single es) hc).trans ?_
      simp [hline, Line.constructorForm?]
    · intro htaken
      have hkept := Transcript.run_keeps_constructor (events scripts) hsplit hc
        (List.forall_mem_cons.2 ⟨⟨hcreated, husurps⟩, htaken⟩)
      simpa [constructorForms, hline, Line.constructorForm?] using hkept

/-- A constructor declared before its class stays alone; the next one is merged with two later forms
    across another declaration of the class. -/
theorem constructor_merged_across_redeclaration :
    let scripts : List Script :=
      [⟨bytes "a.js", bytes "/*?\nnew Foo()\nclass Foo\ncreateFoo(x)\n**/"⟩,
        ⟨bytes "b.js", bytes "/*?\nclass Foo\nnew Foo()\ncreateFoo()\n**/"⟩]
    ∃ t pre r post, (parseScripts scripts).1 = .ok t ∧ t.entities = [0, 3, 2] ∧
      Surviving (readings scripts) (bytes "createFoo") 2 pre r post ∧
      constructorForms (bytes "Foo") (r :: post) =
        [bytes "createFoo", bytes "new Foo", bytes "createFoo"] := by
  intro scripts
  have hview : (parseScripts scripts).1.toOption.map
        (fun t => (t.entities, t.owner? (t.entity 2).key, (t.entity 3).key, t.entity 2)) =
      some ([0, 3, 2], some 3, bytes "Foo", ⟨bytes "createFoo", bytes "\n\n", bytes "a.js", 4,
        .constructorBody ⟨bytes "Foo", [⟨bytes "x", true, 0, [], [], []⟩], [bytes "Foo"]⟩
          [bytes "createFoo", bytes "new Foo", bytes "createFoo"]⟩) := by
    decide
  obtain ⟨t, hparse, hentity⟩ := exists_tree_of_view hview
  simp only [Prod.mk.injEq] at hentity
  obtain ⟨hentities, howner, hclass, hconstructor⟩ := hentity
  obtain ⟨-, -, hforms, -⟩ := constructors_merged scripts t hparse
  have hkind : (t.entity 2).kind = .constructor := by rw [hconstructor]; rfl
  obtain ⟨pre, r, post, hr, heq⟩ := (hforms 2 (by simp [hentities]) hkind).2 3 howner
  rw [hconstructor] at hr heq
  rw [hclass] at heq
  exact ⟨t, pre, r, post, hparse, hentities, hr, heq.symm⟩

end DocPages
