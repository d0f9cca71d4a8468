import DocPages.Session
import DocPages.Proofs.DeclarationKeys
import DocPages.Proofs.TreeConsistency

/-!
# Reading as a Run

Reading scripts is a run over one list of events: a script begins, a line inside a block is read, a
block ends, a script ends.  A property of every accepted list of scripts is then what one event
preserves, and one induction over the run.

## Main results

- `Event`, `events`, `Session.run`: reading as a fold
- `parseScripts_eq_ok`, `exists_tree_of_readable`: an accepted list of scripts is the run over its
  events, and a list with readable events is accepted
- `Session.step_cases`: what one line can do, make a new entity or revise one
- `Tree.Nested`, `parseScripts_nested`: every tree on the way is reached by attaching fresh
  entities, and only the top level holds classes
- `Session.step_bare`, `Session.step_bare_new`, `Session.step_index`: the same, seen from the entities
  and the index
-/

namespace DocPages

/-! ## §1 Events -/

/-- What happens while scripts are read. -/
inductive Event where
  /-- A script begins; its text may name the product. -/
  | beginScript (text : Bytes)
  /-- A line inside a block is read. -/
  | line (source : Bytes) (number : Nat) (text : Bytes)
  | endBlock
  | endScript
  deriving DecidableEq, Repr

/-- The events of the block lines of a script. -/
def lineEvents (source : Bytes) : List BlockLine → List Event
  | [] => []
  | l :: rest =>
    .line source l.number l.text ::
      (if l.closing then .endBlock :: lineEvents source rest else lineEvents source rest)

/-- The events of one script. -/
def scriptEvents (script : Script) : List Event :=
  .beginScript script.text :: (lineEvents script.name (blockLines script.text) ++ [.endScript])

/-- The events of a list of scripts. -/
def events (scripts : List Script) : List Event := scripts.flatMap scriptEvents

theorem events_cons (script : Script) (rest : List Script) :
    events (script :: rest) = scriptEvents script ++ events rest := List.flatMap_cons

/-- An event that the session can take: a line must be readable. -/
def Event.Readable : Event → Prop
  | .line _ _ text => ∃ l, Line.classify text = .ok l
  | _ => True

namespace Session

/-- What an event does to the state; an unreadable line does nothing. -/
def apply (s : Session) : Event → Session
  | .beginScript text => s.readBanner text
  | .line source number text =>
    match Line.classify text with
    | .ok l => s.step l source number
    | .error _ => s
  | .endBlock => s.close
  | .endScript => s.close

/-- The state after a list of events. -/
def run (s : Session) (es : List Event) : Session := es.foldl apply s

@[simp] theorem run_nil (s : Session) : s.run [] = s := rfl

@[simp] theorem run_cons (s : Session) (e : Event) (es : List Event) :
    s.run (e :: es) = (s.apply e).run es := rfl

@[simp] theorem run_append (s : Session) (es₁ es₂ : List Event) :
    s.run (es₁ ++ es₂) = (s.run es₁).run es₂ := List.foldl_append

theorem apply_line {source text : Bytes} {number : Nat} {l : Line} (s : Session)
    (h : Line.classify text = .ok l) :
    s.apply (.line source number text) = s.step l source number := by
  simp [apply, h]

/-! ## §2 Accepted scripts -/

/-- Reading the block lines of a script without an error is the run over their events. -/
theorem readLines_eq_none {source : Bytes} {ls : List BlockLine} {s s' : Session}
    (h : readLines source ls s = (s', none)) :
    s' = s.run (lineEvents source ls) ∧ ∀ e ∈ lineEvents source ls, e.Readable := by
  induction ls generalizing s with
  | nil =>
    obtain rfl : s = s' := (Prod.mk.inj h).1
    exact ⟨rfl, by simp [lineEvents]⟩
  | cons l rest ih =>
    unfold readLines at h
    split at h
    · simp at h
    · next line hline =>
      obtain ⟨hrun, hreadable⟩ := ih h
      have hl : (Event.line source l.number l.text).Readable := ⟨line, hline⟩
      cases hclosing : l.closing with
      | true =>
        -- a closing line is two events: the line, and the end of its block
        simp only [lineEvents, hclosing, if_true, run_cons, apply_line s hline] at hrun ⊢
        exact ⟨hrun, List.forall_mem_cons.2 ⟨hl, List.forall_mem_cons.2 ⟨trivial, hreadable⟩⟩⟩
      | false =>
        simp only [hclosing] at hrun
        simp only [lineEvents, hclosing, run_cons, apply_line s hline]
        exact ⟨hrun, List.forall_mem_cons.2 ⟨hl, hreadable⟩⟩

theorem readScript_eq_none {script : Script} {s s' : Session}
    (h : s.readScript script = (s', none)) :
    s' = s.run (scriptEvents script) ∧ ∀ e ∈ scriptEvents script, e.Readable := by
  unfold readScript at h
  split at h
  · next s₁ hlines =>
    obtain ⟨hrun, hreadable⟩ := readLines_eq_none hlines
    obtain rfl : s₁.close = s' := (Prod.mk.inj h).1
    refine ⟨?_, ?_⟩
    · simp only [scriptEvents, run_cons, run_append, run_nil]
      rw [hrun]
      rfl
    · intro e he
      simp only [scriptEvents, List.mem_cons, List.mem_append, List.not_mem_nil, or_false] at he
      rcases he with rfl | he | rfl
      · trivial
      · exact hreadable e he
      · trivial
  · simp at h

theorem readScripts_eq_none {scripts : List Script} {s s' : Session}
    (h : readScripts scripts s = (s', none)) :
    s' = s.run (events scripts) ∧ ∀ e ∈ events scripts, e.Readable := by
  induction scripts generalizing s with
  | nil =>
    obtain rfl : s = s' := (Prod.mk.inj h).1
    exact ⟨rfl, by simp [events]⟩
  | cons script rest ih =>
    unfold readScripts at h
    split at h
    · next s₁ hscript =>
      obtain ⟨rfl, hreadable⟩ := readScript_eq_none hscript
      obtain ⟨hrun, hrest⟩ := ih h
      rw [events_cons, run_append]
      refine ⟨hrun, ?_⟩
      intro e he
      rcases List.mem_append.1 he with he | he
      · exact hreadable e he
      · exact hrest e he
    · simp at h

end Session

/-- The tree of an accepted list of scripts is that of the run over its events, all of which are
    readable. -/
theorem parseScripts_eq_ok {scripts : List Script} {t : Tree}
    (h : (parseScripts scripts).1 = .ok t) :
    t = (Session.start.run (events scripts)).tree ∧ ∀ e ∈ events scripts, e.Readable := by
  unfold parseScripts at h
  split at h
  · simp at h
  · next s hscripts =>
    obtain ⟨hrun, hreadable⟩ := Session.readScripts_eq_none hscripts
    exact ⟨by rw [← Except.ok.inj h, hrun], hreadable⟩

theorem Session.readLines_of_readable {source : Bytes} {ls : List BlockLine} (s : Session)
    (h : ∀ e ∈ lineEvents source ls, e.Readable) : (readLines source ls s).2 = none := by
  induction ls generalizing s with
  | nil => rfl
  | cons l rest ih =>
    unfold lineEvents at h
    obtain ⟨⟨line, hline⟩, hrest⟩ := List.forall_mem_cons.1 h
    have hlater : ∀ e ∈ lineEvents source rest, e.Readable := by
      intro e he
      refine hrest e ?_
      split
      · exact List.mem_cons_of_mem _ he
      · exact he
    simp only [readLines, hline]
    exact ih _ hlater

theorem Session.readScripts_of_readable {scripts : List Script} (s : Session)
    (h : ∀ e ∈ events scripts, e.Readable) : (readScripts scripts s).2 = none := by
  induction scripts generalizing s with
  | nil => rfl
  | cons script rest ih =>
    rw [events_cons, List.forall_mem_append] at h
    have hlines := readLines_of_readable (s.readBanner script.text)
      fun e he => h.1 e (List.mem_cons_of_mem _ (List.mem_append_left _ he))
    have hscript : s.readScript script =
        ((readLines script.name (blockLines script.text) (s.readBanner script.text)).1.close, none) := by
      unfold readScript
      split
      · next heq => rw [heq]
      · next heq => simp [heq] at hlines
    simp only [readScripts, hscript]
    exact ih _ h.2

/-- A list of scripts is accepted when all its events are readable. -/
theorem exists_tree_of_readable {scripts : List Script} (h : ∀ e ∈ events scripts, e.Readable) :
    ∃ t, (parseScripts scripts).1 = .ok t := by
  have hnone := Session.readScripts_of_readable .start h
  unfold parseScripts
  split
  · next heq => simp [heq] at hnone
  · exact ⟨_, rfl⟩

/-! ## §3 What a line does -/

/-- What a line makes of the entity that it revises. -/
def Line.revise (l : Line) (e : Entity) : Entity :=
  match l with
  | .prose text => e.appendLine text
  | .noteLine n =>
    match e.signature?.bind (·.annotate? n) with
    | none => e
    | some annotated => e.withSignature annotated
  | .constructorLine d => e.addAlias d.key
  | _ => e

namespace Session

variable (s : Session) (l : Line) (source : Bytes) (number : Nat)

/-- The class that a declaration finds for itself. -/
def ownerFor : Option Handle := l.declaration?.bind fun d => s.tree.class? d.classKey

/-- The constructor that a line is another form of. -/
def mergeTarget : Option Handle :=
  match l with
  | .constructorLine _ => (s.ownerFor l).bind s.tree.constructor?
  | _ => none

/-- The key under which a line puts a new entity. -/
def created : Option Bytes := if (s.mergeTarget l).isSome then none else l.key?

/-- The entity that a declaration opens: the constructor it is merged into, or the new one. -/
def opens : Option Handle := l.key?.map fun _ => (s.mergeTarget l).getD s.tree.store.size

/-- The entity that a line revises: prose and notes go to the open one, a declaration to the
    constructor it is merged into. -/
def target : Option Handle :=
  match l.key? with
  | none => s.current
  | some _ => s.mergeTarget l

/-- What a declaration makes of its kind. -/
def newBody : Body :=
  match l with
  | .constructorLine d => .constructorBody (signature s.tree d (s.ownerFor l)) [d.key]
  | .instanceMethodLine d => .methodBody false (signature s.tree d (s.ownerFor l))
  | .classMethodLine d => .methodBody true (signature s.tree d (s.ownerFor l))
  | _ => .classBody []

/-- The entity that a declaration of `key` makes. -/
def newEntity (key : Bytes) : Entity := ⟨key, [], source, number, s.newBody l⟩

theorem resolveOwner_tree (d : Declaration) : (s.resolveOwner d source number).1.tree = s.tree := by
  unfold resolveOwner; split <;> rfl

theorem resolveOwner_snd (d : Declaration) :
    (s.resolveOwner d source number).2 = s.tree.class? d.classKey := by
  unfold resolveOwner; split <;> simp [*]

theorem declare_tree (e : Entity) (owner : Option Handle) :
    (s.declare e owner).tree = s.tree.grow e owner := by
  unfold declare; dsimp only; split <;> rfl

theorem declare_current (e : Entity) (owner : Option Handle) :
    (s.declare e owner).current = some s.tree.store.size := by
  unfold declare; dsimp only; split <;> rfl

/-- A method line always makes a new method. -/
theorem methodLine_spec (static : Bool) (d : Declaration) :
    (s.methodLine static d source number).tree =
        s.tree.grow ⟨d.key, [], source, number,
          .methodBody static (signature s.tree d (s.tree.class? d.classKey))⟩
          (s.tree.class? d.classKey) ∧
      (s.methodLine static d source number).current = some s.tree.store.size := by
  have htree := s.resolveOwner_tree source number d
  have howner := s.resolveOwner_snd source number d
  unfold methodLine
  dsimp only
  rw [declare_tree, declare_current, howner, htree]
  exact ⟨rfl, rfl⟩

/-- A declaration that is not merged makes a new entity and opens it. -/
theorem step_of_declares {key : Bytes} (hkey : l.key? = some key) (hmerge : s.mergeTarget l = none) :
    (s.step l source number).tree = s.tree.grow (s.newEntity l source number key) (s.ownerFor l) ∧
      (s.step l source number).current = some s.tree.store.size := by
  cases l with
  | prose text => simp [Line.key?, Line.declaration?] at hkey
  | noteLine n => simp [Line.key?, Line.declaration?] at hkey
  | classLine k =>
    obtain rfl : k = key := Option.some.inj hkey
    exact ⟨s.declare_tree _ _, s.declare_current _ _⟩
  | constructorLine d =>
    obtain rfl : d.key = key := Option.some.inj hkey
    have htree := s.resolveOwner_tree source number d
    have howner := s.resolveOwner_snd source number d
    -- looking for the class leaves a record at most, never a change in the tree
    have hnone : (s.tree.class? d.classKey).bind s.tree.constructor? = none := hmerge
    simp only [step, constructorLine, howner, htree, hnone]
    rw [declare_tree, declare_current, htree]
    exact ⟨rfl, rfl⟩
  | instanceMethodLine d =>
    obtain rfl : d.key = key := Option.some.inj hkey
    exact s.methodLine_spec source number false d
  | classMethodLine d =>
    obtain rfl : d.key = key := Option.some.inj hkey
    exact s.methodLine_spec source number true d

/-- A merged constructor line revises the constructor of its class and opens it. -/
theorem step_of_merges {h : Handle} (hmerge : s.mergeTarget l = some h) :
    (∃ key, l.key? = some key) ∧ (s.step l source number).tree = s.tree.modify h l.revise ∧
      (s.step l source number).current = some h := by
  cases l with
  | constructorLine d =>
    have htree := s.resolveOwner_tree source number d
    have howner := s.resolveOwner_snd source number d
    have hsome : (s.tree.class? d.classKey).bind s.tree.constructor? = some h := hmerge
    simp only [step, constructorLine, howner, htree, hsome, and_true]
    exact ⟨⟨d.key, rfl⟩, rfl⟩
  | _ => simp [mergeTarget] at hmerge

/-- A line of prose revises the open entity. -/
theorem step_prose (text : Bytes) :
    (s.step (.prose text) source number).tree =
        s.current.elim s.tree (fun h => s.tree.modify h (Line.prose text).revise) ∧
      (s.step (.prose text) source number).current = s.current := by
  simp only [step, proseLine]
  split
  · simp [*]
  · next h hcurrent =>
    rw [hcurrent]
    exact ⟨rfl, rfl⟩

/-- An argument note revises the open entity; if no argument has the name, nothing changes. -/
theorem step_note (n : ArgumentNote) :
    (s.step (.noteLine n) source number).tree =
        s.current.elim s.tree (fun h => s.tree.modify h (Line.noteLine n).revise) ∧
      (s.step (.noteLine n) source number).current = s.current := by
  simp only [step, noteLine]
  split
  · simp [*]
  · next h hcurrent =>
    simp only [hcurrent, Option.elim_some]
    cases hsignature : (s.tree.entity h).signature? with
    | none =>
      -- a class: it has no arguments
      refine ⟨(s.tree.modify_eq_self ?_).symm, hcurrent⟩
      simp [Line.revise, hsignature]
    | some signature =>
      cases hannotated : signature.annotate? n with
      | none =>
        -- no argument of the name: a record, and the same tree
        simp only [hannotated]
        refine ⟨(s.tree.modify_eq_self ?_).symm, hcurrent⟩
        simp [Line.revise, hsignature, hannotated]
      | some annotated =>
        simp only [hannotated, and_true]
        refine s.tree.modify_congr ?_
        simp [Line.revise, hsignature, hannotated]

/-- What one line can do: make a new entity and open it, or revise one. -/
theorem step_cases :
    (∃ key, l.key? = some key ∧ s.created l = some key ∧ s.opens l = some s.tree.store.size ∧
      s.target l = none ∧
      (s.step l source number).tree = s.tree.grow (s.newEntity l source number key) (s.ownerFor l) ∧
      (s.step l source number).current = some s.tree.store.size) ∨
    (s.created l = none ∧ (s.opens l = none ∨ s.opens l = s.mergeTarget l) ∧
      (s.step l source number).tree =
        (s.target l).elim s.tree (fun h => s.tree.modify h l.revise) ∧
      (s.step l source number).current = (s.opens l).or s.current) := by
  cases hkey : l.key? with
  | some key =>
    cases hmerge : s.mergeTarget l with
    | none =>
      obtain ⟨htree, hcurrent⟩ := s.step_of_declares l source number hkey hmerge
      exact Or.inl ⟨key, rfl, by simp [created, hkey, hmerge], by simp [opens, hkey, hmerge],
        by simp [target, hkey, hmerge], htree, hcurrent⟩
    | some h =>
      obtain ⟨-, htree, hcurrent⟩ := s.step_of_merges l source number hmerge
      exact Or.inr ⟨by simp [created, hmerge], by simp [opens, hkey, hmerge],
        by simp [target, hkey, hmerge, htree], by simp [opens, hkey, hmerge, hcurrent]⟩
  | none =>
    have hrevised : (s.step l source number).tree =
        s.current.elim s.tree (fun h => s.tree.modify h l.revise) ∧
          (s.step l source number).current = s.current := by
      cases l with
      | prose text => exact s.step_prose source number text
      | noteLine n => exact s.step_note source number n
      | _ => simp [Line.key?, Line.declaration?] at hkey
    exact Or.inr ⟨by simp [created, hkey], by simp [opens, hkey], by simp [target, hkey, hrevised],
      by simp [opens, hkey, hrevised]⟩

end Session

/-! ## §4 Nesting -/

/-- No line changes the key, the kind or the members of the entity that it revises. -/
theorem Line.revise_keepsPlace (l : Line) : Tree.KeepsPlace l.revise where
  key e := by
    cases l with
    | noteLine n =>
      simp only [revise]
      split
      · rfl
      · cases hb : e.body <;> simp [Entity.withSignature, hb]
    | constructorLine d => cases hb : e.body <;> simp [revise, Entity.addAlias, hb]
    | _ => rfl
  isClass e := by
    cases l with
    | noteLine n =>
      simp only [revise]
      split
      · rfl
      · cases hb : e.body <;> simp [Entity.withSignature, Entity.isClass, hb]
    | constructorLine d => cases hb : e.body <;> simp [revise, Entity.addAlias, Entity.isClass, hb]
    | _ => rfl
  members e := by
    cases l with
    | noteLine n =>
      simp only [revise]
      split
      · rfl
      · cases hb : e.body <;> simp [Entity.withSignature, Entity.members, hb]
    | constructorLine d => cases hb : e.body <;> simp [revise, Entity.addAlias, Entity.members, hb]
    | _ => rfl

namespace Tree

/-- A tree as reading makes it: reached by attaching fresh entities, with keys that lines declare and
    with no class inside a class. -/
structure Nested (t : Tree) : Prop where
  reached : t.Reached
  declared : ∀ k h, t.index.find? k = some h → ∃ l : Line, l.KeyForm ∧ l.key? = some k
  flat : ∀ k h o, t.index.find? k = some h → t.owners.find? k = some (some o) →
    (t.entity h).isClass = false

namespace Nested

variable {t : Tree}

theorem invariant (ht : t.Nested) : t.Invariant := ht.reached.invariant

/-- A change that leaves the tables, the keys and the classes alone keeps the nesting. -/
theorem congr (ht : t.Nested) {t' : Tree} (hreached : t'.Reached) (hindex : t'.index = t.index)
    (howners : t'.owners = t.owners)
    (hclass : ∀ x, (t'.entity x).isClass = (t.entity x).isClass) : t'.Nested where
  reached := hreached
  declared k h hk := ht.declared k h (hindex ▸ hk)
  flat k h o hk ho := by
    rw [hclass]
    exact ht.flat k h o (hindex ▸ hk) (howners ▸ ho)

theorem revise (ht : t.Nested) (h : Handle) {f : Entity → Entity} (hf : KeepsPlace f) :
    (t.modify h f).Nested := by
  refine ht.congr (ht.reached.revise h hf) rfl rfl ?_
  intro x
  rw [entity_modify]
  split
  · exact hf.isClass _
  · rfl

theorem name (ht : t.Nested) (product : Bytes) : ({ t with product } : Tree).Nested :=
  ht.congr (ht.reached.name product) rfl rfl fun _ => rfl

/-- Growing by a declared entity keeps the nesting when classes go to the top level. -/
theorem grow (ht : t.Nested) {e : Entity} {owner : Option Handle} (he : e.members = [])
    (ho : t.AdmitsKey owner e.key) (hkey : ∃ l : Line, l.KeyForm ∧ l.key? = some e.key)
    (hclass : e.isClass = true → owner = none) : (t.grow e owner).Nested := by
  refine ⟨ht.reached.grow he ho, ?_, ?_⟩
  · -- the index has one more key at most, and a line declares that one
    intro k h hk
    rw [ht.invariant.grow_index he ho] at hk
    split at hk
    · next heq => exact heq ▸ hkey
    · exact ht.declared k h hk
  have hr := ht.invariant.grow_reassigned he ho
  intro k h o hk howner
  rw [ht.invariant.grow_index he ho] at hk
  rw [hr.owners, entity_create_self] at howner
  rw [hr.isClass]
  by_cases hkey : k = e.key
  · rw [if_pos hkey] at hk howner
    obtain rfl : t.store.size = h := Option.some.inj hk
    rw [entity_create_self]
    cases hc : e.isClass with
    | false => rfl
    | true =>
      -- a new class has no owner
      simp [hclass hc] at howner
  · rw [if_neg hkey] at hk howner
    obtain ⟨c, hc, hmoved⟩ := Option.map_eq_some_iff.1 howner
    rw [t.entity_create_of_ne e (Nat.ne_of_lt (ht.invariant.stored k h hk).1)]
    -- only what had an owner can get another one
    cases c with
    | none => simp [moved] at hmoved
    | some o' => exact ht.flat k h o' hk hc

end Nested

end Tree

namespace Session

/-- The owner that a declaration finds is a registered class under another key. -/
theorem ownerFor_admits {s : Session} (ht : s.tree.Invariant) {l : Line} (hl : l.KeyForm)
    {key : Bytes} (hkey : l.key? = some key) : s.tree.AdmitsKey (s.ownerFor l) key := by
  intro o ho
  obtain ⟨d, hd, hclass⟩ := Option.bind_eq_some_iff.1 (show s.ownerFor l = some o from ho)
  have hkey' : d.key = key := by
    cases l <;> simp_all [Line.key?, Line.declaration?]
  have hok : (s.tree.entity o).key = d.classKey :=
    (ht.stored _ _ ((ht.class_iff _ _).1 hclass).1).2
  exact ⟨hok ▸ hclass, by rw [hok, ← hkey']; exact hl.classKey_ne hd⟩

theorem newEntity_members (s : Session) (l : Line) (source : Bytes) (number : Nat) (key : Bytes) :
    (s.newEntity l source number key).members = [] := by
  cases l <;> rfl

/-- A class line finds no owner, and only a class line makes a class. -/
theorem ownerFor_of_isClass {s : Session} {l : Line} {source : Bytes} {number : Nat} {key : Bytes}
    (h : (s.newEntity l source number key).isClass = true) : s.ownerFor l = none := by
  cases l <;> first | rfl | simp [newEntity, newBody, Entity.isClass] at h

/-- One line keeps the nesting. -/
theorem step_nested {s : Session} (ht : s.tree.Nested) {l : Line} (hl : l.KeyForm) (source : Bytes)
    (number : Nat) : (s.step l source number).tree.Nested := by
  rcases s.step_cases l source number with ⟨key, hkey, -, -, -, htree, -⟩ | ⟨-, -, htree, -⟩
  · rw [htree]
    exact ht.grow (s.newEntity_members l source number key) (ownerFor_admits ht.invariant hl hkey)
      ⟨l, hl, hkey⟩ ownerFor_of_isClass
  · rw [htree]
    cases s.target l with
    | none => exact ht
    | some h => exact ht.revise h l.revise_keepsPlace

theorem apply_nested {s : Session} (ht : s.tree.Nested) (e : Event) : (s.apply e).tree.Nested := by
  cases e with
  | beginScript text =>
    simp only [apply, readBanner]
    split
    · exact ht.name _
    · exact ht
  | line source number text =>
    simp only [apply]
    split
    · next l hl => exact step_nested ht (Line.classify_keyForm hl) source number
    · exact ht
  | endBlock => exact ht
  | endScript => exact ht

/-- A whole run keeps the nesting. -/
theorem run_nested {s : Session} (ht : s.tree.Nested) (es : List Event) :
    (s.run es).tree.Nested := by
  induction es generalizing s with
  | nil => exact ht
  | cons e es ih => exact ih (apply_nested ht e)

theorem start_nested : start.tree.Nested where
  reached := Tree.Reached.empty
  declared k h hk := by simp [start, Tree.empty] at hk
  flat k h o hk _ := by simp [start, Tree.empty] at hk

end Session

/-! ## §5 A line seen from the entities -/

namespace Session

variable {s : Session} {l : Line} {source : Bytes} {number : Nat}

/-- The constructor that a line is merged into is an indexed entity. -/
theorem mergeTarget_indexed (ht : s.tree.Invariant) {h : Handle}
    (hmerge : s.mergeTarget l = some h) :
    s.tree.index.find? (s.tree.entity h).key = some h := by
  cases l with
  | constructorLine d =>
    obtain ⟨c, hc, hconstructor⟩ := Option.bind_eq_some_iff.1 hmerge
    obtain ⟨d', -, hclass⟩ := Option.bind_eq_some_iff.1 hc
    -- it is a member of a registered class, and those are indexed
    have hindexed := ((ht.class_iff _ _).1 hclass).1
    exact ((ht.mem_members_iff hindexed h).1 (List.mem_of_find?_eq_some hconstructor)).1
  | _ => simp [mergeTarget] at hmerge

theorem step_current : (s.step l source number).current = (s.opens l).or s.current := by
  rcases s.step_cases l source number with ⟨key, -, -, hopens, -, -, hcurrent⟩ | ⟨-, -, -, hcurrent⟩
  · rw [hcurrent, hopens, Option.some_or]
  · exact hcurrent

theorem le_step_store_size : s.tree.store.size ≤ (s.step l source number).tree.store.size := by
  rcases s.step_cases l source number with ⟨key, -, -, -, -, htree, -⟩ | ⟨-, -, htree, -⟩
  · simp [htree]
  · rw [htree]
    cases s.target l <;> simp

/-- An entity after a line was there before, or the line has made it. -/
theorem lt_or_created {x : Handle} (hx : x < (s.step l source number).tree.store.size) :
    x < s.tree.store.size ∨ x = s.tree.store.size ∧ ∃ key, s.created l = some key := by
  rcases s.step_cases l source number with ⟨key, -, hnew, -, -, htree, -⟩ | ⟨-, -, htree, -⟩
  · rw [htree, Tree.grow_store_size] at hx
    rcases Nat.lt_succ_iff_lt_or_eq.1 hx with hlt | heq
    · exact Or.inl hlt
    · exact Or.inr ⟨heq, key, hnew⟩
  · left
    rw [htree] at hx
    cases htarget : s.target l <;> simpa [htarget] using hx

/-- A line makes an entity only under the key that it declares. -/
theorem key?_of_created {key : Bytes} (hcreated : s.created l = some key) : l.key? = some key := by
  unfold created at hcreated
  split at hcreated
  · simp at hcreated
  · exact hcreated

/-- A line that makes an entity opens that one. -/
theorem opens_of_created {key : Bytes} (hcreated : s.created l = some key) :
    s.opens l = some s.tree.store.size := by
  cases hmerge : s.mergeTarget l with
  | none => simp_all [created, opens]
  | some h => simp [created, hmerge] at hcreated

/-- A line that makes no entity opens only what it is merged into. -/
theorem mergeTarget_of_opens (hcreated : s.created l = none) {h : Handle}
    (hopens : s.opens l = some h) : s.mergeTarget l = some h := by
  cases hmerge : s.mergeTarget l with
  | none => simp_all [created, opens]
  | some h' =>
    obtain ⟨key, -, rfl⟩ := Option.map_eq_some_iff.1 hopens
    simp [hmerge]

/-- What a declaration opens is an entity of the tree after it. -/
theorem opens_lt (ht : s.tree.Invariant) {h : Handle} (hopens : s.opens l = some h) :
    h < (s.step l source number).tree.store.size := by
  rcases s.step_cases l source number with ⟨key, -, -, hnew, -, htree, -⟩ | ⟨-, hmerged, -, -⟩
  · obtain rfl : s.tree.store.size = h := Option.some.inj (hnew.symm.trans hopens)
    simp [htree]
  · rcases hmerged with hnone | hmerged
    · simp [hnone] at hopens
    · have hstored := (ht.stored _ _ (mergeTarget_indexed ht (hmerged.symm.trans hopens))).1
      exact Nat.lt_of_lt_of_le hstored le_step_store_size

/-- What a line does to an entity that is already there, its members apart. -/
theorem step_bare {x : Handle} (hx : x < s.tree.store.size) :
    ((s.step l source number).tree.entity x).bare =
      (if s.target l = some x then l.revise (s.tree.entity x) else s.tree.entity x).bare := by
  rcases s.step_cases l source number with ⟨key, -, -, -, htarget, htree, -⟩ | ⟨-, -, htree, -⟩
  · rw [htree, Tree.grow_bare_of_lt hx, htarget]
    rfl
  · rw [htree]
    cases htarget : s.target l with
    | none => rfl
    | some h =>
      simp only [Option.elim_some, Tree.entity_modify, hx, and_true, Option.some.injEq, eq_comm]

/-- No line makes a class of anything else, or the other way round. -/
theorem step_isClass {x : Handle} (hx : x < s.tree.store.size) :
    ((s.step l source number).tree.entity x).isClass = (s.tree.entity x).isClass := by
  rw [Entity.isClass_eq_of_bare (step_bare hx)]
  split
  · exact l.revise_keepsPlace.isClass _
  · rfl

/-- The entity that a line makes, its members apart. -/
theorem step_bare_new {key : Bytes} (hcreated : s.created l = some key) :
    ((s.step l source number).tree.entity s.tree.store.size).bare =
      (s.newEntity l source number key).bare := by
  rcases s.step_cases l source number with ⟨key', -, hnew, -, -, htree, -⟩ | ⟨hnone, -, -, -⟩
  · obtain rfl : key' = key := Option.some.inj (hnew.symm.trans hcreated)
    rw [htree, Tree.grow_bare_self]
  · simp [hnone] at hcreated

/-- What a line does to the index: a new entity stands for its key. -/
theorem step_index (ht : s.tree.Invariant) (hl : l.KeyForm) (k : Bytes) :
    (s.step l source number).tree.index.find? k =
      if s.created l = some k then some s.tree.store.size else s.tree.index.find? k := by
  rcases s.step_cases l source number with ⟨key, hkey, hnew, -, -, htree, -⟩ | ⟨hnone, -, htree, -⟩
  · rw [htree, ht.grow_index (s.newEntity_members l source number key) (ownerFor_admits ht hl hkey),
      hnew]
    by_cases hk : k = key
    · simp [newEntity, hk]
    · simp [newEntity, hk, Ne.symm hk]
  · rw [htree, hnone]
    cases s.target l <;> rfl

end Session

/-- A view of the tree of some scripts, when it can be evaluated, shows that they are accepted. -/
theorem exists_tree_of_view {α : Type} {scripts : List Script} {view : Tree → α} {a : α}
    (h : (parseScripts scripts).1.toOption.map view = some a) :
    ∃ t, (parseScripts scripts).1 = .ok t ∧ view t = a := by
  cases hparse : (parseScripts scripts).1 with
  | error e => simp [hparse, Except.toOption] at h
  | ok t => exact ⟨t, rfl, by simpa [hparse, Except.toOption] using h⟩

/-- The tree of every accepted list of scripts is reached by attaching fresh entities, with no class
    inside a class. -/
theorem parseScripts_nested {scripts : List Script} {t : Tree}
    (h : (parseScripts scripts).1 = .ok t) :
    t.Nested := by
  rw [(parseScripts_eq_ok h).1]
  exact Session.run_nested Session.start_nested (events scripts)

end DocPages
