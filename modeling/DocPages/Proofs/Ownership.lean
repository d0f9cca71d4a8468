import DocPages.Proofs.Attribution

/-!
# Owners and Signatures

The owner of a constructor or method is recorded twice: the tree knows the class that holds it, and
its signature keeps the key of the class that was found when it was declared.  Declaring the class
again changes neither.  When something that is no class takes over the key of the class, its members
move to the top level, but their signatures keep the key of the class that is gone.

## Main results

- `Tree.ownerKey?`, `Session.step_ownerKey?`: the key of the owner, and what a line does to it
- `Session.usurps`: the key that a line takes without declaring a class
- `Transcript.run_owned`: the owner is the class of the signature until the key of that class is
  usurped
- `owner_agrees_unless_usurped`: owners and signatures of every accepted list of scripts
-/

namespace DocPages

/-! ## §1 The key of the owner -/

namespace Tree

/-- The key of the class that holds the entity under a key. -/
def ownerKey? (t : Tree) (k : Bytes) : Option Bytes := (t.owner? k).map fun o => (t.entity o).key

theorem ownerKey?_eq_none_iff {t : Tree} {k : Bytes} :
    t.ownerKey? k = none ↔ t.owner? k = none := Option.map_eq_none_iff

/-- The key of an owner depends on the owner entries and on the keys of the classes they name. -/
theorem ownerKey?_congr {t t' : Tree} (howners : t'.owners = t.owners)
    (hkey : ∀ x, (t'.entity x).key = (t.entity x).key) (k : Bytes) :
    t'.ownerKey? k = t.ownerKey? k := by
  simp only [ownerKey?, owner?, howners, hkey]

theorem ownerKey?_modify (t : Tree) (h : Handle) {f : Entity → Entity} (hf : KeepsPlace f)
    (k : Bytes) : (t.modify h f).ownerKey? k = t.ownerKey? k := by
  have hkey : ∀ x, ((t.modify h f).entity x).key = (t.entity x).key := by
    intro x
    rw [entity_modify]
    split
    · exact hf.key _
    · rfl
  refine ownerKey?_congr ?_ hkey k
  rfl

namespace Invariant

variable {t : Tree}

/-- The class that an entity has as its owner is registered under the key of the owner. -/
theorem class?_of_ownerKey? (ht : t.Invariant) {k K : Bytes} (hK : t.ownerKey? k = some K) :
    ∃ o, t.class? K = some o ∧ t.owners.find? k = some (some o) := by
  obtain ⟨o, ho, rfl⟩ := Option.map_eq_some_iff.1 hK
  have howner : t.owners.find? k = some (some o) := Option.join_eq_some_iff.1 ho
  obtain ⟨hclass, -⟩ := ht.owner_indexed k o howner
  exact ⟨o, (ht.class_iff _ o).2 ⟨ht.find?_key hclass, hclass.choose_spec.2⟩, howner⟩

/-- What growing by an entity does to owners.  The new entity has the owner that it was given; what
    a displaced class held keeps an owner of that key if the new entity is a class, and else loses
    its owner. -/
theorem grow_ownerKey? (ht : t.Invariant) {e : Entity} {owner : Option Handle} (he : e.members = [])
    (ho : t.AdmitsKey owner e.key) (k : Bytes) :
    (t.grow e owner).ownerKey? k =
      if k = e.key then owner.map fun o => (t.entity o).key
      else if t.ownerKey? k = some e.key ∧ e.isClass = false then none
      else t.ownerKey? k := by
  have hr := ht.grow_reassigned he ho
  -- an indexed class was there before, so growing does not touch its key
  have hold : ∀ o, t.IsIndexedClass o → ((t.grow e owner).entity o).key = (t.entity o).key := by
    intro o hclass
    have hlt : o < t.store.size := (ht.stored _ o (ht.find?_key hclass)).1
    rw [hr.key, t.entity_create_of_ne e (Nat.ne_of_lt hlt)]
  have howners : (t.grow e owner).owners.find? k =
      if k = e.key then some owner
      else (t.owners.find? k).map ((t.create e).1.moved t.store.size) := by
    rw [hr.owners, entity_create_self]
    rfl
  unfold ownerKey? owner?
  rw [howners]
  by_cases hk : k = e.key
  · rw [if_pos hk, if_pos hk, Option.join_some]
    cases owner with
    | none => rfl
    | some o =>
      have hclass : t.IsIndexedClass o := ⟨_, (ht.class_iff _ o).1 (ho o rfl).1⟩
      exact congrArg some (hold o hclass)
  · rw [if_neg hk, if_neg hk]
    cases hc : t.owners.find? k with
    | none => simp
    | some c =>
      cases c with
      | none => simp [moved]
      | some o =>
        obtain ⟨hclass, -⟩ := ht.owner_indexed k o hc
        -- the owner is displaced exactly when the new entity has its key
        have hlookup : (t.create e).1.lookup? e.key = some o ↔ (t.entity o).key = e.key := by
          constructor
          · intro hlookup
            exact (ht.stored e.key o hlookup).2
          · intro hkey
            exact hkey ▸ ht.find?_key hclass
        by_cases hkey : (t.entity o).key = e.key
        · have hsize : ((t.grow e owner).entity t.store.size).key = e.key := by
            rw [hr.key, entity_create_self]
          cases hnew : e.isClass with
          | true => simp [moved, heir, hlookup.2 hkey, hnew, hkey, hsize]
          | false => simp [moved, heir, hlookup.2 hkey, hnew, hkey]
        · have hstays : (t.create e).1.moved t.store.size (some o) = some o := by
            have hne : ¬ some o = (t.create e).1.lookup? e.key := fun h => hkey (hlookup.1 h.symm)
            simp [moved, hne]
          simp [hstays, hkey, hold o hclass]

end Invariant

end Tree

namespace Session

variable {s : Session} {l : Line} {source : Bytes} {number : Nat}

/-- The key that a line takes without declaring a class. -/
def usurps (s : Session) (l : Line) : Option Bytes :=
  match l with
  | .classLine _ => none
  | _ => s.created l

/-- The key of the class that a declaration finds is the one that it names. -/
theorem ownerFor_map_key (ht : s.tree.Invariant) :
    ((s.ownerFor l).map fun o => (s.tree.entity o).key) =
      l.declaration?.bind fun d => (s.tree.class? d.classKey).map fun _ => d.classKey := by
  unfold ownerFor
  cases l.declaration? with
  | none => rfl
  | some d =>
    simp only [Option.bind_some]
    cases hclass : s.tree.class? d.classKey with
    | none => rfl
    | some o => exact congrArg some (ht.stored _ o ((ht.class_iff _ o).1 hclass).1).2

/-- What a line does to owners: a new entity belongs to the class that it names if there is one, and
    what belonged to a usurped key belongs to no class any more. -/
theorem step_ownerKey? (ht : s.tree.Invariant) (hl : l.KeyForm) (k : Bytes) :
    (s.step l source number).tree.ownerKey? k =
      if s.created l = some k then (s.ownerFor l).map fun o => (s.tree.entity o).key
      else if s.usurps l = s.tree.ownerKey? k then none
      else s.tree.ownerKey? k := by
  rcases s.step_cases l source number with ⟨key, hkey, hnew, -, -, htree, -⟩ | ⟨hnone, -, htree, -⟩
  · rw [htree, ht.grow_ownerKey? (s.newEntity_members l source number key)
      (ownerFor_admits ht hl hkey), hnew]
    have hentity : (s.newEntity l source number key).key = key := rfl
    rw [hentity]
    by_cases hk : k = key
    · simp [hk]
    · rw [if_neg hk, if_neg (fun h => hk (Option.some.inj h).symm)]
      cases l with
      | classLine _ =>
        -- a class inherits the members of the class that it displaces
        cases howner : s.tree.ownerKey? k <;>
          simp [newEntity, newBody, Entity.isClass, usurps]
      | prose _ => simp [Line.key?, Line.declaration?] at hkey
      | noteLine _ => simp [Line.key?, Line.declaration?] at hkey
      | _ => simp [newEntity, newBody, Entity.isClass, usurps, hnew, eq_comm]
  · have husurps : s.usurps l = none := by
      cases l <;> simp [usurps, hnone]
    have hsame : (s.step l source number).tree.ownerKey? k = s.tree.ownerKey? k := by
      rw [htree]
      cases s.target l with
      | none => rfl
      | some h => exact s.tree.ownerKey?_modify h l.revise_keepsPlace k
    rw [hsame, hnone, husurps]
    cases s.tree.ownerKey? k <;> simp

/-- The signature of a new entity has the key of the class that was found, or the empty key. -/
theorem newEntity_classKey {key : Bytes} {sig : Signature}
    (h : (s.newEntity l source number key).signature? = some sig) :
    sig.classKey = ((s.ownerFor l).map fun o => (s.tree.entity o).key).getD [] := by
  cases l <;> simp only [newEntity, newBody, Entity.signature?, Option.some.injEq, reduceCtorEq] at h
  all_goals
    subst h
    rfl

/-- No line changes the class key of a signature that is already there. -/
theorem step_classKey {x : Handle} (hx : x < s.tree.store.size) {sig : Signature}
    (h : ((s.step l source number).tree.entity x).signature? = some sig) :
    ∃ sig₀, (s.tree.entity x).signature? = some sig₀ ∧ sig.classKey = sig₀.classKey := by
  rw [step_signature? hx] at h
  obtain ⟨sig₀, hsig₀, rfl⟩ := Option.map_eq_some_iff.1 h
  exact ⟨sig₀, hsig₀, rfl⟩

/-- The keys of registered classes are not empty. -/
theorem class?_ne_nil (ht : s.tree.Nested) {K : Bytes} {o : Handle}
    (h : s.tree.class? K = some o) : K ≠ [] := by
  obtain ⟨l, hl, hkey⟩ := ht.declared K o ((ht.invariant.class_iff K o).1 h).1
  exact hl.key_ne_nil hkey

end Session

/-! ## §2 Owners along a run -/

/-- The key that a line took without declaring a class. -/
def Reading.usurped (r : Reading) : Option Bytes := r.before.usurps r.line

namespace Transcript

/-- Under the key `k` stands an entity with the signature `s`, declared before the lines `post`: it has
    an owner exactly as long as a class was found for it and the key of that class is not usurped,
    and the key of the owner is that of the signature. -/
def Owned (g : Transcript) (k : Bytes) (s : Signature) (post : List Reading) : Prop :=
  ∀ K, g.session.tree.ownerKey? k = some K ↔
    K = s.classKey ∧ s.classKey ≠ [] ∧ ∀ r ∈ post, r.usurped ≠ some s.classKey

theorem owned_new (es : List Event) (source : Bytes) (number : Nat) {l : Line} {k : Bytes}
    (hl : l.KeyForm) (hcreated : (start.run es).session.created l = some k) {s : Signature}
    (hs : (((start.run es).read source number l).session.tree.entity
      (start.run es).session.tree.store.size).signature? = some s) :
    ((start.run es).read source number l).Owned k s [] := by
  have ht := (run_tracks es).nested
  have hclassKey := Session.newEntity_classKey
    ((Entity.signature?_eq_of_bare (Session.step_bare_new hcreated)).symm.trans hs)
  have howner : ((start.run es).read source number l).session.tree.ownerKey? k =
      ((start.run es).session.ownerFor l).map
        fun o => ((start.run es).session.tree.entity o).key := by
    refine (Session.step_ownerKey? ht.invariant hl k).trans ?_
    rw [if_pos hcreated]
  rw [Session.ownerFor_map_key ht.invariant] at hclassKey howner
  intro K
  rw [howner, hclassKey]
  cases hd : l.declaration? with
  | none => simp
  | some d =>
    cases hclass : (start.run es).session.tree.class? d.classKey with
    | none => simp [hclass]
    | some o =>
      have hne : d.classKey ≠ [] := Session.class?_ne_nil ht hclass
      simp [hclass, hne, eq_comm]

theorem owned_keep (es : List Event) (source : Bytes) (number : Nat) {l : Line} {k : Bytes}
    (hl : l.KeyForm) (hcreated : (start.run es).session.created l ≠ some k) {s : Signature}
    {post : List Reading} (howned : (start.run es).Owned k s post) :
    ((start.run es).read source number l).Owned k s
      (post ++ [(start.run es).reading source number l]) := by
  have ht := (run_tracks es).nested
  have howner : ((start.run es).read source number l).session.tree.ownerKey? k =
      if (start.run es).session.usurps l = (start.run es).session.tree.ownerKey? k then none
      else (start.run es).session.tree.ownerKey? k := by
    refine (Session.step_ownerKey? ht.invariant hl k).trans ?_
    rw [if_neg hcreated]
  have husurped : ((start.run es).reading source number l).usurped =
    (start.run es).session.usurps l := rfl
  intro K
  rw [howner, List.forall_mem_append, List.forall_mem_singleton, husurped]
  split
  · -- the owner of `k`, if it has one, loses its key to the line
    next heq =>
    rw [heq]
    constructor
    · intro h
      simp at h
    · rintro ⟨rfl, hne, hpost, hlast⟩
      exact absurd ((howned s.classKey).2 ⟨rfl, hne, hpost⟩) hlast
  · next hne =>
    rw [howned K]
    constructor
    · rintro ⟨rfl, hnil, hpost⟩
      refine ⟨rfl, hnil, hpost, fun hlast => hne ?_⟩
      rw [hlast, (howned s.classKey).2 ⟨rfl, hnil, hpost⟩]
    · rintro ⟨rfl, hnil, hpost, -⟩
      exact ⟨rfl, hnil, hpost⟩

/-- Along every run the owner is the class of the signature until the key of that class is
    usurped. -/
theorem run_owned (es : List Event) {k : Bytes} {h : Handle}
    (hk : (start.run es).session.tree.index.find? k = some h) :
    ∃ pre r post, Surviving (start.run es).past k h pre r post ∧
      ∀ s, ((start.run es).session.tree.entity h).signature? = some s →
        (start.run es).Owned k s post := by
  refine run_surviving
    (P := fun g k h _ post => ∀ s, (g.session.tree.entity h).signature? = some s → g.Owned k s post)
    ?_ ?_ ?_ es hk
  · intro g g' k h r post hp howned s hs K
    obtain ⟨product, htree⟩ := hp.tree
    rw [htree] at hs ⊢
    exact howned s hs K
  · intro es source number l k hl hcreated s hs
    exact owned_new es source number hl hcreated hs
  · intro es source number l k h r post hl hk hcreated howned s hs
    have hlt := ((run_tracks es).nested.invariant.stored k h hk).1
    obtain ⟨s₀, hs₀, hclassKey⟩ := Session.step_classKey hlt hs
    have hkeep := owned_keep es source number hl hcreated (howned s₀ hs₀)
    -- a note may have changed the signature, but not the class that it names
    unfold Owned at hkeep ⊢
    rwa [hclassKey]

end Transcript

/-- **Owners and signatures**: in the tree of an accepted list of scripts the owner of a constructor or
    method has the key that its signature names.  The entity stands at the top level exactly when the
    signature names no class, or when after its surviving declaration a line that declares no class
    took the key of the class. -/
theorem owner_agrees_unless_usurped (scripts : List Script) (t : Tree)
    (hparse : (parseScripts scripts).1 = .ok t) (k : Bytes) (h : Handle)
    (hk : t.lookup? k = some h) (s : Signature) (hs : (t.entity h).signature? = some s) :
    (∀ o, t.owner? k = some o → (t.entity o).key = s.classKey ∧ s.classKey ≠ []) ∧
      ∃ pre r post, Surviving (readings scripts) k h pre r post ∧
        (t.owner? k = none ↔ s.classKey = [] ∨ ∃ r' ∈ post, r'.usurped = some s.classKey) := by
  obtain rfl := parseScripts_eq_transcript hparse
  obtain ⟨pre, r, post, hr, howned⟩ := Transcript.run_owned (events scripts) hk
  have howner := howned s hs
  refine ⟨?_, pre, r, post, hr, ?_⟩
  · intro o ho
    obtain ⟨hkey, hne, -⟩ := (howner _).1 (by rw [Tree.ownerKey?, ho]; rfl)
    exact ⟨hkey, hne⟩
  · rw [← Tree.ownerKey?_eq_none_iff, Option.eq_none_iff_forall_ne_some]
    constructor
    · intro h'
      by_contra hcontra
      push Not at hcontra
      exact h' _ ((howner _).2 ⟨rfl, hcontra⟩)
    · rintro (hnil | ⟨r', hr', husurped⟩) K hK
      · exact ((howner K).1 hK).2.1 hnil
      · exact ((howner K).1 hK).2.2 r' hr' husurped

/-- A method whose class is declared again keeps its owner; once a class method takes the key of the
    class it has none, and the line that took the key is among those after its declaration. -/
theorem owner_lost_to_class_method :
    let scripts : List Script :=
      [⟨bytes "a.js", bytes "/*?\nclass a.Foo\na.Foo#bar() -> X\nclass a.Foo\na.Foo() -> X\n**/"⟩]
    ∃ t s pre r post, (parseScripts scripts).1 = .ok t ∧ t.lookup? (bytes "a.Foo#bar") = some 1 ∧
      (t.entity 1).signature? = some s ∧
      Surviving (readings scripts) (bytes "a.Foo#bar") 1 pre r post ∧
      ∃ r' ∈ post, r'.usurped = some (bytes "a.Foo") := by
  intro scripts
  have hview : (parseScripts scripts).1.toOption.map (fun t => (t.lookup? (bytes "a.Foo#bar"),
        t.owner? (bytes "a.Foo#bar"), (t.entity 1).signature?)) =
      some (some 1, none, some ⟨bytes "a.Foo", [], [bytes "X"]⟩) := by
    decide
  obtain ⟨t, hparse, hentity⟩ := exists_tree_of_view hview
  simp only [Prod.mk.injEq] at hentity
  obtain ⟨hlookup, howner, hsignature⟩ := hentity
  obtain ⟨-, pre, r, post, hr, hiff⟩ :=
    owner_agrees_unless_usurped scripts t hparse _ 1 hlookup _ hsignature
  rcases hiff.1 howner with hnil | husurped
  · exact absurd hnil (by decide)
  · exact ⟨t, _, pre, r, post, hparse, hlookup, hsignature, hr, husurped⟩

/-- A method at the top level whose signature still names the class that is gone. -/
theorem signature_names_lost_owner :
    ∃ t s, (parseScripts [⟨bytes "a.js",
        bytes "/*?\nclass a.Foo\na.Foo#bar() -> X\na.Foo() -> X\n**/"⟩]).1 = .ok t ∧
      t.lookup? (bytes "a.Foo#bar") = some 1 ∧ (t.entity 1).signature? = some s ∧
      t.owner? (bytes "a.Foo#bar") = none ∧ s.classKey = bytes "a.Foo" := by
  have hview : (parseScripts [⟨bytes "a.js",
        bytes "/*?\nclass a.Foo\na.Foo#bar() -> X\na.Foo() -> X\n**/"⟩]).1.toOption.map
        (fun t => (t.lookup? (bytes "a.Foo#bar"), t.owner? (bytes "a.Foo#bar"),
          (t.entity 1).signature?)) =
      some (some 1, none, some ⟨bytes "a.Foo", [], [bytes "X"]⟩) := by
    decide
  obtain ⟨t, hparse, hentity⟩ := exists_tree_of_view hview
  simp only [Prod.mk.injEq] at hentity
  exact ⟨t, _, hparse, hentity.1, hentity.2.2, hentity.2.1, rfl⟩

end DocPages
