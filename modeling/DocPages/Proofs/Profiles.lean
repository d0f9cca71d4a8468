import DocPages.Proofs.Ownership
import Mathlib.Data.List.Find

/-!
# The Tree Seen Through Its Keys

Handles tell entities apart while scripts are read, but which handle an entity gets depends on all
that was read before.  The profile of a key says the same without handles: the entity itself, the key
of its owner, and the keys of its members in order.  What a line does to a tree can be told by profiles
alone, and what it does to the profile of one key needs the profiles of a few others only.

## Main results

- `Tree.profile?`: the profile of a key
- `Profiles.put`, `Tree.Invariant.grow_profile?`: what a new entity does to the profiles
- `KeyView.step`, `Session.step_keyView`: what a line does to the profiles and to the open key
- `Session.run_keyView`: a run, told by profiles
-/

namespace DocPages

/-! ## §1 Members in order -/

namespace Tree

/-- The keys of the members of an entity, in order. -/
def memberKeys (t : Tree) (h : Handle) : List Bytes :=
  (t.entity h).members.map fun m => (t.entity m).key

theorem map_replaceFirst {α : Type} {f : Handle → α} {old new : Handle} (h : f new = f old)
    (l : List Handle) : (replaceFirst old new l).map f = l.map f := by
  induction l with
  | nil => rfl
  | cons x l ih =>
    unfold replaceFirst
    split
    · next heq => simp [h, heq]
    · simp [ih]

theorem map_erase_of_unique {f : Handle → Bytes} {old : Handle} {l : List Handle}
    (h : ∀ x ∈ l, f x = f old → x = old) : (l.erase old).map f = (l.map f).erase (f old) := by
  induction l with
  | nil => rfl
  | cons x l ih =>
    obtain ⟨hx, hl⟩ := List.forall_mem_cons.1 h
    by_cases heq : x = old
    · simp [heq]
    · have hne : f x ≠ f old := fun h' => heq (hx h')
      rw [List.erase_cons_tail (by simpa using heq), List.map_cons, List.map_cons,
        List.erase_cons_tail (by simpa using hne), ih hl]

/-- What a container holds after `h` took the place of `old`, in order. -/
theorem relocate_container {t : Tree} {old h : Handle} {oldOwner owner : Option Handle}
    (hholdsOld : t.Holds oldOwner) (hholds : t.Holds owner) (hold : old ∈ t.container oldOwner)
    (c : Option Handle) :
    (t.relocate old h oldOwner owner).container c =
      if oldOwner = owner then
        if c = owner then replaceFirst old h (t.container c) else t.container c
      else if c = owner then t.container c ++ [h]
      else if c = oldOwner then (t.container c).erase old
      else t.container c := by
  unfold relocate
  by_cases hsame : oldOwner = owner
  · subst hsame
    rw [if_pos rfl, if_pos hold, if_pos rfl, container_modifyContainer t hholds]
  · rw [if_neg hsame, if_neg hsame, container_modifyContainer _ (hholds.modifyContainer _ _),
      container_modifyContainer t hholdsOld]
    by_cases hc : c = owner
    · have hne : c ≠ oldOwner := fun h' => hsame (h'.symm.trans hc)
      simp [hc, Ne.symm hsame]
    · simp [hc]

section Attach

variable {t : Tree} {h o old : Handle} {owner : Option Handle}

/-- A key without an entity has no owner. -/
theorem Invariant.owner?_eq_none (ht : t.Invariant) {k : Bytes} (hk : t.index.find? k = none) :
    t.owner? k = none := by
  have hnone : t.owners.find? k = none := by
    rw [← Option.not_isSome_iff_eq_none, ht.owned_iff, hk]
    simp
  simp [owner?, hnone]

/-- Attaching under a new key appends to the container of the owner. -/
theorem attach_container_new (ht : t.Invariant) (ha : t.Admits owner h)
    (hlookup : t.lookup? (t.entity h).key = none) (c : Option Handle) :
    (t.attach h owner).1.container c = if c = owner then t.container c ++ [h] else t.container c := by
  have hholds : ((t.listed (t.entity h).key).register (t.entity h).key h owner).Holds owner := by
    intro x hx
    simpa using ht.holds (ha.survives ht).isContainer x hx
  have hattach : (t.attach h owner).1 =
      ((t.listed (t.entity h).key).register (t.entity h).key h owner).modifyContainer owner
        (· ++ [h]) := by
    simp [attach, hlookup, listed]
  rw [hattach, container_modifyContainer _ hholds, register_container, listed_container]

/-- Attaching under a known key first passes on the members of what is displaced, and then moves the key
    from its old owner to the new one. -/
theorem attach_container_known (ht : t.Invariant) (hf : t.Fresh h) (ha : t.Admits owner h)
    (hlookup : t.lookup? (t.entity h).key = some old) (c : Option Handle) :
    (t.attach h owner).1.container c =
      if t.owner? (t.entity h).key = owner then
        if c = owner then replaceFirst old h ((t.retire (t.entity h).key old h).container c)
        else (t.retire (t.entity h).key old h).container c
      else if c = owner then (t.retire (t.entity h).key old h).container c ++ [h]
      else if c = t.owner? (t.entity h).key then
        ((t.retire (t.entity h).key old h).container c).erase old
      else (t.retire (t.entity h).key old h).container c := by
  have hold : t.index.find? (t.entity h).key = some old := hlookup
  have howner := (ht.owner?_eq_iff hold _).1 rfl
  have hcontainer : t.IsContainer (t.owner? (t.entity h).key) := ht.isContainer_of_owner howner
  have hholds : ∀ c, t.Holds c →
      ((t.retire (t.entity h).key old h).register (t.entity h).key h owner).Holds c := by
    intro c hc x hx
    simpa using hc x hx
  -- the displaced entity stands with its owner, also after its own members were passed on
  have hstood : old ∈ ((t.retire (t.entity h).key old h).register (t.entity h).key h
      owner).container (t.owner? (t.entity h).key) := by
    have hmem : old ∈ t.container (t.owner? (t.entity h).key) :=
      ((ht.placed _ hcontainer).mem_iff old).2 (by simp [(ht.stored _ _ hold).2, hold, howner])
    rw [register_container, retire_container t _ _ _ hf.1 hf.2.2]
    split
    · exact List.mem_append_left _ hmem
    · exact hmem
  have hattach : (t.attach h owner).1 =
      ((t.retire (t.entity h).key old h).register (t.entity h).key h owner).relocate old h
        (t.owner? (t.entity h).key) owner := by
    simp [attach, hlookup]
  rw [hattach, relocate_container (hholds _ (ht.holds hcontainer))
    (hholds _ (ht.holds (ha.survives ht).isContainer)) hstood, register_container]

/-- The keys in a class that stays, after an entity was attached: the key of the entity is added at the
    end, taken out, or left where it was, as its owner changes. -/
theorem attach_container_map_key (ht : t.Invariant) (hf : t.Fresh h) (ha : t.Admits owner h)
    (ho : t.IsIndexedClass o) :
    ((t.attach h owner).1.container (some o)).map (fun x => (t.entity x).key) =
      if t.owner? (t.entity h).key = owner then t.memberKeys o
      else if some o = owner then t.memberKeys o ++ [(t.entity h).key]
      else if some o = t.owner? (t.entity h).key then (t.memberKeys o).erase (t.entity h).key
      else t.memberKeys o := by
  have hkeys : (t.container (some o)).map (fun x => (t.entity x).key) = t.memberKeys o := rfl
  cases hlookup : t.lookup? (t.entity h).key with
  | none =>
    rw [attach_container_new ht ha hlookup, ht.owner?_eq_none hlookup]
    by_cases hco : some o = owner
    · subst hco
      simp [hkeys]
    · cases owner with
      | none => simp [hkeys]
      | some o' => simp [hco, hkeys]
  | some old =>
    have hold : t.index.find? (t.entity h).key = some old := hlookup
    have hkeyold : (t.entity old).key = (t.entity h).key := (ht.stored _ _ hold).2
    -- the class is not the one that takes over from the displaced entity
    have hheir : some o ≠ t.heir h := by
      unfold heir
      split
      · intro h'
        obtain rfl : o = h := Option.some.inj h'
        exact hf.2.1 (ht.find?_key ho)
      · simp
    -- among the members of a class only the displaced entity has the key
    have hunique : ∀ x ∈ t.container (some o), (t.entity x).key = (t.entity old).key → x = old := by
      intro x hx hkey
      have hx' := ((ht.placed _ (isContainer_some (ht.find?_key ho) ho.choose_spec.2)).mem_iff x).1 hx
      rw [hkey, hkeyold, hold] at hx'
      exact (Option.some.inj hx'.1).symm
    rw [attach_container_known ht hf ha hlookup, retire_container t _ _ _ hf.1 hf.2.2, if_neg hheir]
    by_cases hsame : t.owner? (t.entity h).key = owner
    · rw [if_pos hsame, if_pos hsame]
      split
      · rw [map_replaceFirst hkeyold.symm, hkeys]
      · rfl
    · rw [if_neg hsame, if_neg hsame]
      split
      · rw [List.map_append, hkeys]
        rfl
      · split
        · rw [map_erase_of_unique hunique, hkeys, hkeyold]
        · rfl

/-- A class that takes over a key holds what the class under that key held. -/
theorem attach_container_self (ht : t.Invariant) (hf : t.Fresh h) (ha : t.Admits owner h)
    (hclass : (t.entity h).isClass = true) :
    (t.attach h owner).1.container (some h) =
      (t.lookup? (t.entity h).key).elim [] fun old => (t.entity old).members := by
  have hself : some h ≠ owner := fun h' => (ha h h'.symm).2 rfl
  have hempty : t.container (some h) = [] := hf.2.2
  cases hlookup : t.lookup? (t.entity h).key with
  | none =>
    rw [attach_container_new ht ha hlookup, if_neg hself]
    exact hempty
  | some old =>
    have hself' : some h ≠ t.owner? (t.entity h).key := by
      intro h'
      exact hf.not_owner ht _ (Option.join_eq_some_iff.1 h'.symm)
    have hheir : some h = t.heir h := (if_pos hclass).symm
    rw [attach_container_known ht hf ha hlookup, retire_container t _ _ _ hf.1 hf.2.2, if_pos hheir,
      hempty, if_neg hself, if_neg hself', if_neg hself, ite_self]
    rfl

end Attach

end Tree

/-! ## §2 Profiles -/

/-- What a tree says of a key, without handles: the entity apart from its members, the key of its owner,
    and the keys of its members. -/
structure Profile where
  entity : Entity
  owner? : Option Bytes
  members : List Bytes
  deriving DecidableEq, Repr

/-- The profiles of all keys. -/
abbrev Profiles := Bytes → Option Profile

/-- The profile of a key. -/
def Tree.profile? (t : Tree) : Profiles := fun k =>
  (t.lookup? k).map fun h => ⟨(t.entity h).bare, t.ownerKey? k, t.memberKeys h⟩

/-- What becomes of the profile of `k` when an entity is put under another key: `old` and `new` are the
    keys of the classes that held that key before and hold it now. -/
def Profile.adjust (p : Profile) (k key : Bytes) (isClass : Bool) (old new : Option Bytes) :
    Profile where
  entity := p.entity
  owner? := if p.owner? = some key ∧ isClass = false then none else p.owner?
  members :=
    if old = new then p.members
    else if new = some k then p.members ++ [key]
    else if old = some k then p.members.erase key
    else p.members

namespace Profiles

/-- The profiles after an entity was put under its key, into the class `owner` or at the top level. -/
def put (P : Profiles) (e : Entity) (owner : Option Bytes) : Profiles := fun k =>
  if k = e.key then
    some ⟨e.bare, owner, if e.isClass then (P k).elim [] Profile.members else []⟩
  else (P k).map fun p => p.adjust k e.key e.isClass ((P e.key).bind Profile.owner?) owner

/-- The profiles after the entity of one key was revised. -/
def revise (P : Profiles) (target : Option Bytes) (f : Entity → Entity) : Profiles := fun k =>
  if target = some k then (P k).map fun p => { p with entity := f p.entity } else P k

@[simp] theorem revise_none (P : Profiles) (f : Entity → Entity) : P.revise none f = P := by
  funext k
  exact if_neg (by simp)

end Profiles

namespace Tree

theorem profile?_of_find? {t : Tree} {k : Bytes} {h : Handle} (hh : t.index.find? k = some h) :
    t.profile? k = some ⟨(t.entity h).bare, t.ownerKey? k, t.memberKeys h⟩ := by
  simp [profile?, lookup?, hh]

theorem profile?_eq_none {t : Tree} {k : Bytes} (hk : t.index.find? k = none) :
    t.profile? k = none := by
  simp [profile?, lookup?, hk]

theorem modify_key {f : Entity → Entity} (hf : KeepsPlace f) (t : Tree) (h x : Handle) :
    ((t.modify h f).entity x).key = (t.entity x).key := by
  rw [entity_modify]
  split
  · exact hf.key _
  · rfl

namespace Invariant

variable {t : Tree} {e : Entity} {owner : Option Handle}

/-- Containers are told apart by their keys. -/
theorem map_key_inj (ht : t.Invariant) {a b : Option Handle} (ha : t.IsContainer a)
    (hb : t.IsContainer b) :
    (a.map fun o => (t.entity o).key) = (b.map fun o => (t.entity o).key) ↔ a = b := by
  refine ⟨fun h => ?_, fun h => by rw [h]⟩
  cases a with
  | none =>
    cases b with
    | none => rfl
    | some o => simp at h
  | some o =>
    cases b with
    | none => simp at h
    | some o' =>
      have hkey : (t.entity o).key = (t.entity o').key := Option.some.inj h
      have ho := ht.find?_key (ha o rfl)
      rw [hkey, ht.find?_key (hb o' rfl)] at ho
      exact ho.symm

theorem isContainer_owner? (ht : t.Invariant) (k : Bytes) : t.IsContainer (t.owner? k) := by
  intro o ho
  exact (ht.owner_indexed k o (Option.join_eq_some_iff.1 ho)).1

theorem isContainer_of_admitsKey (ht : t.Invariant) {key : Bytes} (ho : t.AdmitsKey owner key) :
    t.IsContainer owner := fun o hmem => ⟨_, (ht.class_iff _ _).1 (ho o hmem).1⟩

/-- Making an entity without attaching it changes no view of the others. -/
theorem create_views (ht : t.Invariant) (e : Entity) {h : Handle} {k : Bytes}
    (hh : t.index.find? k = some h) :
    (t.create e).1.entity h = t.entity h ∧ (t.create e).1.memberKeys h = t.memberKeys h := by
  have hentity : (t.create e).1.entity h = t.entity h :=
    t.entity_create_of_ne e (Nat.ne_of_lt (ht.stored _ _ hh).1)
  refine ⟨hentity, ?_⟩
  unfold memberKeys
  rw [hentity]
  refine List.map_congr_left fun m hm => ?_
  have hm' := ((ht.mem_members_iff hh m).1 hm).1
  rw [t.entity_create_of_ne e (Nat.ne_of_lt (ht.stored _ _ hm').1)]

/-- The keys of members after a new entity was put under another key. -/
theorem grow_memberKeys (ht : t.Invariant) (he : e.members = []) (ho : t.AdmitsKey owner e.key)
    {k : Bytes} {h : Handle} (hh : t.index.find? k = some h) :
    (t.grow e owner).memberKeys h =
      if t.ownerKey? e.key = owner.map (fun o => (t.entity o).key) then t.memberKeys h
      else if owner.map (fun o => (t.entity o).key) = some k then t.memberKeys h ++ [e.key]
      else if t.ownerKey? e.key = some k then (t.memberKeys h).erase e.key
      else t.memberKeys h := by
  obtain ⟨hlt, hkey⟩ := ht.stored k h hh
  have hr := ht.grow_reassigned he ho
  have hkeys : (t.grow e owner).memberKeys h =
      ((t.grow e owner).container (some h)).map fun x => ((t.create e).1.entity x).key :=
    List.map_congr_left fun x _ => hr.key x
  cases hclass : (t.entity h).isClass with
  | true =>
    have hindexed : t.IsIndexedClass h := ⟨k, hh, hclass⟩
    have hindexed' : (t.create e).1.IsIndexedClass h := by
      refine ⟨k, hh, ?_⟩
      rwa [(ht.create_views e hh).1]
    -- the owners before and after can be told by their keys
    have hself : ∀ {c : Option Handle}, t.IsContainer c →
        (some h = c ↔ (c.map fun o => (t.entity o).key) = some k) := by
      intro c hc
      rw [← ht.map_key_inj (fun o ho => Option.some.inj ho ▸ hindexed) hc, Option.map_some, hkey,
        eq_comm]
    rw [hkeys]
    refine (attach_container_map_key (ht.create e) (ht.fresh_create he) (ht.admits_create ho)
      hindexed').trans ?_
    rw [entity_create_self, (ht.create_views e hh).2]
    change (if t.owner? e.key = owner then t.memberKeys h
      else if some h = owner then t.memberKeys h ++ [e.key]
      else if some h = t.owner? e.key then (t.memberKeys h).erase e.key else t.memberKeys h) = _
    have hadmits := ht.isContainer_of_admitsKey ho
    have howned := ht.isContainer_owner? e.key
    exact if_congr (ht.map_key_inj howned hadmits).symm rfl
      (if_congr (hself hadmits) rfl (if_congr (hself howned) rfl rfl))
  | false =>
    -- what is no class has no members, and owns nothing
    have hnil : t.memberKeys h = [] := by
      rw [memberKeys, Entity.members_eq_nil hclass, List.map_nil]
    have hnot : (owner.map fun o => (t.entity o).key) ≠ some k := by
      intro h'
      obtain ⟨o, hmem, hko⟩ := Option.map_eq_some_iff.1 h'
      obtain ⟨hindex, hclass'⟩ := (ht.class_iff _ _).1 (ho o hmem).1
      rw [hko, hh] at hindex
      rw [← Option.some.inj hindex, hclass] at hclass'
      exact absurd hclass' Bool.false_ne_true
    have hbare : ((t.grow e owner).entity h).isClass = false := by
      rw [Entity.isClass_eq_of_bare (grow_bare_of_lt hlt), hclass]
    rw [hnil, if_neg hnot, List.erase_nil, ite_self, ite_self, memberKeys,
      Entity.members_eq_nil hbare, List.map_nil]

/-- The keys of the members of a new entity: a class inherits those of its key. -/
theorem grow_memberKeys_self (ht : t.Invariant) (he : e.members = [])
    (ho : t.AdmitsKey owner e.key) :
    (t.grow e owner).memberKeys t.store.size =
      if e.isClass then (t.lookup? e.key).elim [] t.memberKeys else [] := by
  have hr := ht.grow_reassigned he ho
  cases hclass : e.isClass with
  | false =>
    have hbare : ((t.grow e owner).entity t.store.size).isClass = false := by
      rw [Entity.isClass_eq_of_bare grow_bare_self, hclass]
    rw [memberKeys, Entity.members_eq_nil hbare]
    rfl
  | true =>
    have hcontainer := attach_container_self (ht.create e) (ht.fresh_create he)
      (ht.admits_create ho) (by rw [entity_create_self, hclass])
    rw [entity_create_self] at hcontainer
    have hlookup : (t.create e).1.lookup? e.key = t.lookup? e.key := rfl
    have hkeys : (t.grow e owner).memberKeys t.store.size =
        ((t.grow e owner).container (some t.store.size)).map
          fun x => ((t.create e).1.entity x).key :=
      List.map_congr_left fun x _ => hr.key x
    rw [hkeys, if_pos rfl]
    refine (congrArg (List.map _) hcontainer).trans ?_
    rw [hlookup]
    cases hold : t.lookup? e.key with
    | none => rfl
    | some old => exact (ht.create_views e hold).2

theorem ownerKey?_eq (ht : t.Invariant) (k : Bytes) :
    t.ownerKey? k = (t.profile? k).bind Profile.owner? := by
  cases hk : t.index.find? k with
  | some h => rw [profile?_of_find? hk, Option.bind_some]
  | none => rw [profile?_eq_none hk, Option.bind_none, ownerKey?, ht.owner?_eq_none hk, Option.map_none]

/-- What a new entity does to the profiles. -/
theorem grow_profile? (ht : t.Invariant) (he : e.members = []) (ho : t.AdmitsKey owner e.key) :
    (t.grow e owner).profile? =
      Profiles.put t.profile? e (owner.map fun o => (t.entity o).key) := by
  funext k
  have hindex := ht.grow_index he ho k
  have howner := ht.grow_ownerKey? he ho k
  unfold Profiles.put
  by_cases hk : k = e.key
  · subst hk
    rw [if_pos rfl] at hindex howner ⊢
    rw [profile?_of_find? hindex, grow_bare_self, howner, ht.grow_memberKeys_self he ho]
    unfold profile?
    cases t.lookup? e.key <;> rfl
  · rw [if_neg hk] at hindex howner ⊢
    rw [← ht.ownerKey?_eq]
    cases hh : t.index.find? k with
    | none => rw [profile?_eq_none (hindex.trans hh), profile?_eq_none hh, Option.map_none]
    | some h =>
      rw [profile?_of_find? (hindex.trans hh), profile?_of_find? hh, Option.map_some,
        grow_bare_of_lt (ht.stored _ _ hh).1, howner, ht.grow_memberKeys he ho hh]
      rfl

/-- What a revision of one entity does to the profiles. -/
theorem modify_profile? (ht : t.Invariant) {f : Entity → Entity} (hf : KeepsPlace f)
    (hbare : ∀ e, (f e).bare = f e.bare) {h : Handle}
    (hh : t.index.find? (t.entity h).key = some h) :
    (t.modify h f).profile? = Profiles.revise t.profile? (some (t.entity h).key) f := by
  have hmembers : ∀ x, (t.modify h f).memberKeys x = t.memberKeys x := by
    intro x
    unfold memberKeys
    simp only [modify_key hf]
    rw [entity_modify]
    split
    · rw [hf.members]
    · rfl
  funext k
  unfold Profiles.revise
  cases hk : t.index.find? k with
  | none =>
    rw [profile?_eq_none (show (t.modify h f).index.find? k = none from hk), profile?_eq_none hk]
    simp
  | some x =>
    obtain ⟨hlt, hx⟩ := ht.stored k x hk
    rw [profile?_of_find? (show (t.modify h f).index.find? k = some x from hk),
      profile?_of_find? hk, hmembers, t.ownerKey?_modify h hf, entity_modify]
    by_cases hxh : x = h
    · subst hxh
      simp [hlt, hx, hbare]
    · have hne : (t.entity h).key ≠ k := by
        intro h'
        rw [h', hk] at hh
        exact hxh (Option.some.inj hh)
      simp [hxh, hne]

end Invariant

end Tree

/-! ## §3 Lines -/

/-- No line looks at the members of the entity that it revises. -/
theorem Line.revise_bare (l : Line) (e : Entity) : (l.revise e).bare = l.revise e.bare := by
  cases hb : e.body with
  | classBody members =>
    cases l <;> simp [revise, Entity.bare, Entity.withMembers, Entity.appendLine, Entity.addAlias,
      Entity.signature?, hb]
  | _ =>
    -- what is no class has no members to begin with
    have hbare : ∀ e' : Entity, e'.isClass = false → e'.bare = e' := by
      intro e' he'
      cases hb' : e'.body <;> simp [Entity.isClass, Entity.bare, Entity.withMembers, hb'] at he' ⊢
    have hclass : e.isClass = false := by simp [Entity.isClass, hb]
    rw [hbare e hclass, hbare _ ((l.revise_keepsPlace.isClass e).trans hclass)]

/-- The entity that a declaration makes under a key, in the class with the key `owner`. -/
def Line.newEntity (l : Line) (owner : Option Bytes) (source : Bytes) (number : Nat) (key : Bytes) :
    Entity :=
  let signature := fun d : Declaration =>
    Signature.mk (owner.getD []) (Session.numberArguments 0 d.parameters) d.returns
  ⟨key, [], source, number,
    match l with
    | .constructorLine d => .constructorBody (signature d) [d.key]
    | .instanceMethodLine d => .methodBody false (signature d)
    | .classMethodLine d => .methodBody true (signature d)
    | _ => .classBody []⟩

namespace Profiles

/-- Whether a key names a class. -/
def hasClass (P : Profiles) (k : Bytes) : Bool := (P k).any fun p => p.entity.isClass

/-- The class that a declaration finds for itself. -/
def ownerFor (P : Profiles) (l : Line) : Option Bytes :=
  l.declaration?.bind fun d => if P.hasClass d.classKey then some d.classKey else none

/-- The constructor that a line is another form of. -/
def mergeTarget (P : Profiles) (l : Line) : Option Bytes :=
  match l with
  | .constructorLine _ =>
    (P.ownerFor l).bind fun c => (P c).bind fun p =>
      p.members.find? fun m => (P m).any fun q => q.entity.kind = .constructor
  | _ => none

end Profiles

/-- What is known while scripts are read, without handles: the profiles, and the key that prose belongs
    to. -/
structure KeyView where
  profiles : Profiles
  current : Option Bytes

namespace KeyView

/-- The view before any script. -/
def start : KeyView := ⟨fun _ => none, none⟩

/-- What a line does to the profiles. -/
def step (v : KeyView) (l : Line) (source : Bytes) (number : Nat) : KeyView :=
  match l.key?, v.profiles.mergeTarget l with
  | none, _ => { v with profiles := v.profiles.revise v.current l.revise }
  | some _, some m => ⟨v.profiles.revise (some m) l.revise, some m⟩
  | some key, none =>
    ⟨v.profiles.put (l.newEntity (v.profiles.ownerFor l) source number key) (v.profiles.ownerFor l),
      some key⟩

/-- What an event does to the profiles; an unreadable line does nothing. -/
def apply (v : KeyView) : Event → KeyView
  | .beginScript _ => v
  | .line source number text =>
    match Line.classify text with
    | .ok l => v.step l source number
    | .error _ => v
  | .endBlock => { v with current := none }
  | .endScript => { v with current := none }

/-- The profiles after a list of events. -/
def run (v : KeyView) (es : List Event) : KeyView := es.foldl apply v

@[simp] theorem run_nil (v : KeyView) : v.run [] = v := rfl

@[simp] theorem run_cons (v : KeyView) (e : Event) (es : List Event) :
    v.run (e :: es) = (v.apply e).run es := rfl

@[simp] theorem run_append (v : KeyView) (es₁ es₂ : List Event) :
    v.run (es₁ ++ es₂) = (v.run es₁).run es₂ := List.foldl_append

end KeyView

namespace Session

/-- A session without its handles. -/
def keyView (s : Session) : KeyView :=
  ⟨s.tree.profile?, s.current.map fun h => (s.tree.entity h).key⟩

/-- The open entity stands for its key. -/
def Focused (s : Session) : Prop :=
  ∀ h, s.current = some h → s.tree.index.find? (s.tree.entity h).key = some h

variable {s : Session} {l : Line} {source : Bytes} {number : Nat}

theorem hasClass_profile? (ht : s.tree.Invariant) (k : Bytes) :
    Profiles.hasClass s.tree.profile? k = (s.tree.class? k).isSome := by
  unfold Profiles.hasClass
  cases hk : s.tree.index.find? k with
  | none =>
    have hclass : s.tree.class? k = none := ht.classes_eq_none fun c hc => by simp [hk] at hc
    rw [Tree.profile?_eq_none hk, hclass]
    rfl
  | some h =>
    have hbare : (s.tree.entity h).bare.isClass = (s.tree.entity h).isClass :=
      Entity.withMembers_isClass _ _
    rw [Tree.profile?_of_find? hk, Option.any_some, hbare]
    cases hclass : (s.tree.entity h).isClass with
    | true => simp [show s.tree.class? k = some h from (ht.class_iff k h).2 ⟨hk, hclass⟩]
    | false =>
      have hnone : s.tree.class? k = none :=
        ht.classes_eq_none fun c hc => by rwa [← Option.some.inj (hk.symm.trans hc)]
      simp [hnone]

theorem ownerFor_profile? (ht : s.tree.Invariant) :
    Profiles.ownerFor s.tree.profile? l = (s.ownerFor l).map fun o => (s.tree.entity o).key := by
  rw [ownerFor_map_key ht]
  unfold Profiles.ownerFor
  cases l.declaration? with
  | none => rfl
  | some d =>
    simp only [Option.bind_some, hasClass_profile? ht]
    cases s.tree.class? d.classKey <;> rfl

/-- The first member with a property of its profile is the first one whose entity has it. -/
theorem find?_memberKeys (ht : s.tree.Invariant) {k : Bytes} {o : Handle}
    (ho : s.tree.index.find? k = some o) :
    (s.tree.memberKeys o).find?
        (fun m => (s.tree.profile? m).any fun q => q.entity.kind = .constructor) =
      (s.tree.constructor? o).map fun h => (s.tree.entity h).key := by
  unfold Tree.memberKeys Tree.constructor?
  rw [List.find?_map]
  congr 1
  refine List.find?_congr fun m hm => ?_
  have hm' := ((ht.mem_members_iff ho m).1 hm).1
  have hkind : (s.tree.entity m).bare.kind = (s.tree.entity m).kind :=
    Entity.kind_eq_of_bare (Entity.bare_withMembers _ _)
  simp [Tree.profile?_of_find? hm', hkind]

theorem mergeTarget_profile? (ht : s.tree.Invariant) :
    Profiles.mergeTarget s.tree.profile? l =
      (s.mergeTarget l).map fun h => (s.tree.entity h).key := by
  cases l with
  | constructorLine d =>
    simp only [Profiles.mergeTarget, mergeTarget, ownerFor_profile? ht]
    cases howner : s.ownerFor (.constructorLine d) with
    | none => rfl
    | some o =>
      obtain ⟨d', -, hclass⟩ := Option.bind_eq_some_iff.1 howner
      have hindex : s.tree.index.find? (s.tree.entity o).key = some o :=
        ht.find?_key ⟨_, (ht.class_iff _ _).1 hclass⟩
      rw [Option.map_some, Option.bind_some, Option.bind_some, Tree.profile?_of_find? hindex,
        Option.bind_some]
      exact find?_memberKeys ht hindex
  | _ => rfl

theorem newEntity_eq (key : Bytes) :
    s.newEntity l source number key =
      l.newEntity ((s.ownerFor l).map fun o => (s.tree.entity o).key) source number key := by
  cases l <;> rfl

/-- What opens stays open under its key. -/
theorem step_focused (ht : s.tree.Invariant) (hs : s.Focused) (hl : l.KeyForm) :
    (s.step l source number).Focused := by
  intro h hcurrent
  rcases s.step_cases l source number with
    ⟨key, -, hnew, -, -, htree, hopen⟩ | ⟨hnone, hopens, htree, hopen⟩
  · obtain rfl : s.tree.store.size = h := Option.some.inj (hopen.symm.trans hcurrent)
    have hkey : ((s.step l source number).tree.entity s.tree.store.size).key = key :=
      (Entity.key_eq_of_bare (step_bare_new hnew)).trans rfl
    rw [hkey, step_index ht hl, if_pos hnew]
  · -- the index stays, and what is open now was open or is the constructor of the line
    have hindexed : s.tree.index.find? (s.tree.entity h).key = some h := by
      rw [hopen] at hcurrent
      rcases hopens with hnothing | hmerged
      · rw [hnothing, Option.none_or] at hcurrent
        exact hs h hcurrent
      · cases hmerge : s.mergeTarget l with
        | none =>
          rw [hmerged, hmerge, Option.none_or] at hcurrent
          exact hs h hcurrent
        | some h' =>
          rw [hmerged, hmerge, Option.some_or] at hcurrent
          exact mergeTarget_indexed ht (hmerge.trans hcurrent)
    have hkey : ((s.step l source number).tree.entity h).key = (s.tree.entity h).key := by
      rw [Entity.key_eq_of_bare (step_bare (ht.stored _ _ hindexed).1)]
      split
      · exact l.revise_keepsPlace.key _
      · rfl
    rw [hkey, step_index ht hl, hnone]
    exact hindexed

/-- What a line does to a session is what it does to the view of the session. -/
theorem step_keyView (ht : s.tree.Invariant) (hs : s.Focused) (hl : l.KeyForm) :
    (s.step l source number).keyView = s.keyView.step l source number := by
  have hmerged : s.keyView.profiles.mergeTarget l =
      (s.mergeTarget l).map fun h => (s.tree.entity h).key := mergeTarget_profile? ht
  cases hkey : l.key? with
  | some key =>
    cases hmerge : s.mergeTarget l with
    | none =>
      -- a new entity
      obtain ⟨htree, hcurrent⟩ := s.step_of_declares l source number hkey hmerge
      have howner : s.keyView.profiles.ownerFor l =
          (s.ownerFor l).map fun o => (s.tree.entity o).key := ownerFor_profile? ht
      have hself : ((s.tree.grow (s.newEntity l source number key)
          (s.ownerFor l)).entity s.tree.store.size).key = key :=
        (Entity.key_eq_of_bare Tree.grow_bare_self).trans rfl
      rw [hmerge, Option.map_none] at hmerged
      simp only [KeyView.step, hkey, hmerged, howner, ← newEntity_eq]
      simp only [keyView, htree, hcurrent, Option.map_some, hself]
      rw [ht.grow_profile? (s.newEntity_members l source number key) (ownerFor_admits ht hl hkey)]
    | some h =>
      -- another form of a constructor
      obtain ⟨-, htree, hcurrent⟩ := s.step_of_merges l source number hmerge
      have hindexed := mergeTarget_indexed ht hmerge
      rw [hmerge, Option.map_some] at hmerged
      simp only [KeyView.step, hkey, hmerged]
      simp only [keyView, htree, hcurrent, Option.map_some, Tree.modify_key l.revise_keepsPlace]
      rw [ht.modify_profile? l.revise_keepsPlace l.revise_bare hindexed]
  | none =>
    -- prose or a note: what is open is revised
    have hrevised : (s.step l source number).tree =
        s.current.elim s.tree (fun h => s.tree.modify h l.revise) ∧
          (s.step l source number).current = s.current := by
      cases l with
      | prose text => exact s.step_prose source number text
      | noteLine n => exact s.step_note source number n
      | _ => simp [Line.key?, Line.declaration?] at hkey
    simp only [KeyView.step, hkey]
    simp only [keyView, hrevised]
    cases hopen : s.current with
    | none => simp
    | some h =>
      simp only [Option.elim_some, Option.map_some, Tree.modify_key l.revise_keepsPlace]
      rw [ht.modify_profile? l.revise_keepsPlace l.revise_bare (hs h hopen)]

theorem apply_focused (ht : s.tree.Invariant) (hs : s.Focused) (e : Event) :
    (s.apply e).Focused := by
  cases e with
  | beginScript text =>
    simp only [apply, readBanner]
    split
    · exact hs
    · exact hs
  | line source number text =>
    simp only [apply]
    split
    · next l hl => exact step_focused ht hs (Line.classify_keyForm hl)
    · exact hs
  | endBlock =>
    intro h hcurrent
    simp [apply, close] at hcurrent
  | endScript =>
    intro h hcurrent
    simp [apply, close] at hcurrent

theorem apply_keyView (ht : s.tree.Invariant) (hs : s.Focused) (e : Event) :
    (s.apply e).keyView = s.keyView.apply e := by
  cases e with
  | beginScript text =>
    -- the name of the product is in no profile
    simp only [apply, readBanner]
    split <;> rfl
  | line source number text =>
    simp only [apply, KeyView.apply]
    cases hl : Line.classify text with
    | ok l => exact step_keyView ht hs (Line.classify_keyForm hl)
    | error cause => rfl
  | endBlock => rfl
  | endScript => rfl

/-- A run of a session is a run of its view. -/
theorem run_keyView (ht : s.tree.Nested) (hs : s.Focused) (es : List Event) :
    (s.run es).keyView = s.keyView.run es := by
  induction es generalizing s with
  | nil => rfl
  | cons e es ih =>
    rw [run_cons, KeyView.run_cons, ← apply_keyView ht.invariant hs e]
    exact ih (apply_nested ht e) (apply_focused ht.invariant hs e)

theorem start_focused : start.Focused := by
  intro h hcurrent
  simp [start] at hcurrent

theorem start_keyView : start.keyView = KeyView.start := rfl

end Session

end DocPages
