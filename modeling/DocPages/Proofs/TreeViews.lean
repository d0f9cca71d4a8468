import DocPages.Tree
import Mathlib.Data.List.Nodup

/-!
# What Each Tree Operation Changes

One equation for each pair of an operation and a view: what the tables answer after a key was put
or removed, which entity stands behind a handle after a change, and what a container holds.  Later
proofs use these equations and never open the operations.

## Main results

- `Table.find?_put`, `Table.find?_remove`, `Table.find?_putAll`: the laws of finite maps
- `Tree.container_modifyContainer`: changing one container leaves the others alone
- `Tree.retire_owners_find?`, `Tree.retire_container`: what displacing a class does to its members
- `Tree.attach_bare`: attaching changes nothing of any entity but its members
-/

namespace DocPages

/-! ## §1 Finite maps -/

namespace Table

variable {α : Type}

@[simp] theorem find?_nil (k : Bytes) : find? ([] : Table α) k = none := rfl

theorem find?_cons (k : Bytes) (v : α) (m : Table α) (k' : Bytes) :
    find? ((k, v) :: m) k' = if k' = k then some v else m.find? k' := by
  unfold find?
  rw [List.lookup_cons]
  by_cases h : k' = k
  · simp [h]
  · simp [h, beq_false_of_ne h]

/-- Putting a value answers for its own key and for no other. -/
theorem find?_put (k : Bytes) (v : α) (m : Table α) (k' : Bytes) :
    (m.put k v).find? k' = if k' = k then some v else m.find? k' := by
  induction m with
  | nil => rw [put, find?_cons]
  | cons entry rest ih =>
    obtain ⟨k₀, v₀⟩ := entry
    unfold put
    split
    · -- the head has the key, and its value is replaced
      next heq =>
      subst heq
      simp only [find?_cons]
      split <;> rfl
    · next hne =>
      simp only [find?_cons, ih]
      by_cases h : k' = k₀
      · -- `k'` is answered by the head, which the put left alone
        simp [h, hne]
      · simp [h]

/-- A removed key has no value; the other keys keep theirs. -/
theorem find?_remove (k : Bytes) (m : Table α) (k' : Bytes) :
    (m.remove k).find? k' = if k' = k then none else m.find? k' := by
  induction m with
  | nil => simp [remove]
  | cons entry rest ih =>
    obtain ⟨k₀, v₀⟩ := entry
    by_cases hk : k₀ = k
    · -- the head goes, and the rest may hold the key again
      have hdrop : remove k ((k₀, v₀) :: rest) = remove k rest := by simp [remove, hk]
      rw [hdrop, ih, find?_cons]
      by_cases h : k' = k
      · simp [h]
      · have h₀ : k' ≠ k₀ := fun h₀ => h (h₀.trans hk)
        simp [h, h₀]
    · have hkeep : remove k ((k₀, v₀) :: rest) = (k₀, v₀) :: remove k rest := by simp [remove, hk]
      rw [hkeep, find?_cons, find?_cons, ih]
      by_cases h : k' = k₀
      · simp [h, hk]
      · simp [h]

/-- Putting one value under the keys of many items. -/
theorem find?_putAll {β : Type} (key : β → Bytes) (v : α) (items : List β) (m : Table α)
    (k : Bytes) :
    (items.foldl (fun m b => m.put (key b) v) m).find? k =
      if ∃ b ∈ items, key b = k then some v else m.find? k := by
  induction items generalizing m with
  | nil => simp
  | cons b rest ih =>
    -- the first item is put first, so a later item with its key puts the same value again
    rw [List.foldl_cons, ih, find?_put]
    by_cases hrest : ∃ b ∈ rest, key b = k
    · simp [hrest]
    · by_cases hb : key b = k
      · simp [hb]
      · simp [hrest, hb, Ne.symm hb]

theorem mem_keys_iff (m : Table α) (k : Bytes) : k ∈ m.map Prod.fst ↔ (m.find? k).isSome := by
  induction m with
  | nil => simp
  | cons entry rest ih =>
    obtain ⟨k₀, v₀⟩ := entry
    rw [List.map_cons, List.mem_cons, find?_cons, ih]
    by_cases h : k = k₀ <;> simp [h]

/-- Putting a value lists its key at the end, unless it was listed before. -/
theorem keys_put (k : Bytes) (v : α) (m : Table α) :
    (m.put k v).map Prod.fst =
      if (m.find? k).isSome then m.map Prod.fst else m.map Prod.fst ++ [k] := by
  induction m with
  | nil => rfl
  | cons entry rest ih =>
    obtain ⟨k₀, v₀⟩ := entry
    unfold put
    by_cases h : k₀ = k
    · simp [h, find?_cons]
    · simp only [h, if_false, List.map_cons, ih, find?_cons, Ne.symm h]
      split <;> rfl

end Table

/-! ## §2 Entities -/

namespace Entity

@[simp] theorem withMembers_key (e : Entity) (ms : List Handle) :
    (e.withMembers ms).key = e.key := by
  unfold withMembers; split <;> rfl

@[simp] theorem withMembers_isClass (e : Entity) (ms : List Handle) :
    (e.withMembers ms).isClass = e.isClass := by
  cases hb : e.body <;> simp [withMembers, isClass, hb]

theorem withMembers_members {e : Entity} (he : e.isClass = true) (ms : List Handle) :
    (e.withMembers ms).members = ms := by
  cases hb : e.body <;> simp [isClass, withMembers, members, hb] at he ⊢

theorem members_eq_nil {e : Entity} (he : e.isClass = false) : e.members = [] := by
  cases hb : e.body <;> simp [isClass, members, hb] at he ⊢

/-- An entity without its members: all that attaching does not touch. -/
def bare (e : Entity) : Entity := e.withMembers []

@[simp] theorem bare_withMembers (e : Entity) (ms : List Handle) :
    (e.withMembers ms).bare = e.bare := by
  cases hb : e.body <;> simp [bare, withMembers, hb]

/-- A view that does not look at members is the same for entities that differ in members alone. -/
theorem eq_of_bare {α : Type} {view : Entity → α} (hview : ∀ e ms, view (e.withMembers ms) = view e)
    {e e' : Entity} (h : e.bare = e'.bare) : view e = view e' := by
  rw [← hview e [], ← hview e' []]
  exact congrArg view h

theorem text_eq_of_bare {e e' : Entity} (h : e.bare = e'.bare) : e.text = e'.text :=
  eq_of_bare (fun e _ => by cases hb : e.body <;> simp [withMembers, hb]) h

theorem key_eq_of_bare {e e' : Entity} (h : e.bare = e'.bare) : e.key = e'.key :=
  eq_of_bare withMembers_key h

theorem source_eq_of_bare {e e' : Entity} (h : e.bare = e'.bare) : e.source = e'.source :=
  eq_of_bare (fun e _ => by cases hb : e.body <;> simp [withMembers, hb]) h

theorem line_eq_of_bare {e e' : Entity} (h : e.bare = e'.bare) : e.line = e'.line :=
  eq_of_bare (fun e _ => by cases hb : e.body <;> simp [withMembers, hb]) h

theorem isClass_eq_of_bare {e e' : Entity} (h : e.bare = e'.bare) : e.isClass = e'.isClass :=
  eq_of_bare withMembers_isClass h

theorem kind_eq_of_bare {e e' : Entity} (h : e.bare = e'.bare) : e.kind = e'.kind :=
  eq_of_bare (fun e _ => by cases hb : e.body <;> simp [withMembers, kind, hb]) h

theorem aliases_eq_of_bare {e e' : Entity} (h : e.bare = e'.bare) : e.aliases = e'.aliases :=
  eq_of_bare (fun e _ => by cases hb : e.body <;> simp [withMembers, aliases, hb]) h

theorem signature?_eq_of_bare {e e' : Entity} (h : e.bare = e'.bare) :
    e.signature? = e'.signature? :=
  eq_of_bare (fun e _ => by cases hb : e.body <;> simp [withMembers, signature?, hb]) h

end Entity

/-! ## §3 Stores and containers -/

namespace Tree

variable (t : Tree)

theorem entity_modify (h : Handle) (f : Entity → Entity) (x : Handle) :
    (t.modify h f).entity x = if x = h ∧ x < t.store.size then f (t.entity x) else t.entity x := by
  unfold modify entity
  by_cases hx : x < t.store.size
  · by_cases hxh : x = h
    · subst hxh
      simp [Array.getD, hx, Array.getElem_modify]
    · simp [Array.getD, hx, hxh, Array.getElem_modify, Ne.symm hxh]
  · simp [Array.getD, hx]

theorem entity_create_of_ne (e : Entity) {x : Handle} (hx : x ≠ t.store.size) :
    (t.create e).1.entity x = t.entity x := by
  unfold create entity
  by_cases hlt : x < t.store.size
  · simp [Array.getD, hlt, Nat.lt_succ_of_lt hlt, Array.getElem_push]
  · have hgt : ¬ x < t.store.size + 1 := fun h =>
      hx (Nat.le_antisymm (Nat.le_of_lt_succ h) (Nat.le_of_not_lt hlt))
    simp [Array.getD, hlt, hgt]

@[simp] theorem entity_create_self (e : Entity) : (t.create e).1.entity t.store.size = e := by
  simp [create, entity, Array.getD]

@[simp] theorem modify_store_size (h : Handle) (f : Entity → Entity) :
    (t.modify h f).store.size = t.store.size := by
  simp [modify]

/-- Changing an entity depends only on what the change makes of that entity. -/
theorem modify_congr {h : Handle} {f g : Entity → Entity} (hfg : f (t.entity h) = g (t.entity h)) :
    t.modify h f = t.modify h g := by
  unfold modify
  congr 1
  refine Array.ext (by simp) ?_
  intro i hi _
  have hlt : i < t.store.size := by simpa using hi
  rw [Array.getElem_modify, Array.getElem_modify]
  split
  · -- the entry at `h` is the only one that the change looks at
    next heq =>
    subst heq
    simpa [entity, Array.getD, hlt] using hfg
  · rfl

/-- Changing an entity to itself leaves the tree as it is. -/
theorem modify_eq_self {h : Handle} {f : Entity → Entity} (hf : f (t.entity h) = t.entity h) :
    t.modify h f = t := by
  rw [t.modify_congr (show f (t.entity h) = id (t.entity h) from hf)]
  unfold modify
  rw [show t.store.modify h id = t.store from Array.ext (by simp) fun i _ _ => by
    simp [Array.getElem_modify]]

/-- A change of members alone keeps the rest of every entity. -/
theorem bare_modify {h : Handle} {f : Entity → Entity} (hf : ∀ e, (f e).bare = e.bare) (x : Handle) :
    ((t.modify h f).entity x).bare = (t.entity x).bare := by
  rw [entity_modify]
  split
  · exact hf _
  · rfl

section ModifyContainer

variable (o : Option Handle) (f : List Handle → List Handle)

@[simp] theorem modifyContainer_index : (t.modifyContainer o f).index = t.index := by
  cases o <;> rfl

@[simp] theorem modifyContainer_order : (t.modifyContainer o f).order = t.order := by
  cases o <;> rfl

@[simp] theorem modifyContainer_owners : (t.modifyContainer o f).owners = t.owners := by
  cases o <;> rfl

@[simp] theorem modifyContainer_classes : (t.modifyContainer o f).classes = t.classes := by
  cases o <;> rfl

@[simp] theorem modifyContainer_store_size : (t.modifyContainer o f).store.size = t.store.size := by
  cases o <;> simp [modifyContainer]

@[simp] theorem modifyContainer_bare (x : Handle) :
    ((t.modifyContainer o f).entity x).bare = (t.entity x).bare := by
  cases o with
  | none => rfl
  | some h => exact t.bare_modify (fun e => e.bare_withMembers _) x

@[simp] theorem modifyContainer_key (x : Handle) :
    ((t.modifyContainer o f).entity x).key = (t.entity x).key :=
  Entity.key_eq_of_bare (t.modifyContainer_bare o f x)

@[simp] theorem modifyContainer_isClass (x : Handle) :
    ((t.modifyContainer o f).entity x).isClass = (t.entity x).isClass :=
  Entity.isClass_eq_of_bare (t.modifyContainer_bare o f x)

end ModifyContainer

/-- Handles that can be changed as containers: the top level and the stored classes. -/
def Holds (t : Tree) (c : Option Handle) : Prop :=
  ∀ o ∈ c, o < t.store.size ∧ (t.entity o).isClass = true

/-- Changing one container leaves the others alone. -/
theorem container_modifyContainer {o : Option Handle} (ho : t.Holds o)
    (f : List Handle → List Handle) (c : Option Handle) :
    (t.modifyContainer o f).container c = if c = o then f (t.container c) else t.container c := by
  cases o with
  | none =>
    cases c with
    | none => simp [modifyContainer, container]
    | some x => simp [modifyContainer, container, entity]
  | some h =>
    obtain ⟨hlt, hclass⟩ := ho h rfl
    cases c with
    | none => simp [modifyContainer, container, modify]
    | some x =>
      simp only [modifyContainer, container, entity_modify, Option.some.injEq]
      by_cases hx : x = h
      · subst hx
        simp [hlt, Entity.withMembers_members hclass]
      · simp [hx]

theorem Holds.modifyContainer {t : Tree} {c : Option Handle} (hc : t.Holds c) (o : Option Handle)
    (f : List Handle → List Handle) : (t.modifyContainer o f).Holds c := by
  intro x hx
  simpa using hc x hx

/-! ## §4 Registering -/

section Register

variable (key : Bytes) (h : Handle) (owner : Option Handle)

@[simp] theorem register_index : (t.register key h owner).index = t.index.put key h := by
  unfold register registerClass; split <;> rfl

@[simp] theorem register_order : (t.register key h owner).order = t.order := by
  unfold register registerClass; split <;> rfl

@[simp] theorem register_owners : (t.register key h owner).owners = t.owners.put key owner := by
  unfold register registerClass; split <;> rfl

@[simp] theorem register_store : (t.register key h owner).store = t.store := by
  unfold register registerClass; split <;> rfl

@[simp] theorem register_root : (t.register key h owner).root = t.root := by
  unfold register registerClass; split <;> rfl

@[simp] theorem register_entity (x : Handle) : (t.register key h owner).entity x = t.entity x := by
  simp [entity]

@[simp] theorem register_container (c : Option Handle) :
    (t.register key h owner).container c = t.container c := by
  cases c <;> simp [container]

theorem register_classes_find? (k : Bytes) :
    (t.register key h owner).classes.find? k =
      if k = key ∧ (t.entity h).isClass = true then some h else t.classes.find? k := by
  have hentity :
      ({ t with index := t.index.put key h, owners := t.owners.put key owner } : Tree).entity h =
      t.entity h := rfl
  unfold register registerClass
  rw [hentity]
  by_cases hclass : (t.entity h).isClass = true
  · simp [hclass, Table.find?_put]
  · simp [hclass]

end Register

/-! ## §5 Relocating -/

section Relocate

variable (old h : Handle) (oldOwner owner : Option Handle)

@[simp] theorem relocate_index : (t.relocate old h oldOwner owner).index = t.index := by
  unfold relocate; split <;> [split; skip] <;> simp

@[simp] theorem relocate_order : (t.relocate old h oldOwner owner).order = t.order := by
  unfold relocate; split <;> [split; skip] <;> simp

@[simp] theorem relocate_owners : (t.relocate old h oldOwner owner).owners = t.owners := by
  unfold relocate; split <;> [split; skip] <;> simp

@[simp] theorem relocate_classes : (t.relocate old h oldOwner owner).classes = t.classes := by
  unfold relocate; split <;> [split; skip] <;> simp

@[simp] theorem relocate_store_size :
    (t.relocate old h oldOwner owner).store.size = t.store.size := by
  unfold relocate; split <;> [split; skip] <;> simp

@[simp] theorem relocate_bare (x : Handle) :
    ((t.relocate old h oldOwner owner).entity x).bare = (t.entity x).bare := by
  unfold relocate; split <;> [split; skip] <;> simp

@[simp] theorem relocate_key (x : Handle) :
    ((t.relocate old h oldOwner owner).entity x).key = (t.entity x).key :=
  Entity.key_eq_of_bare (t.relocate_bare old h oldOwner owner x)

@[simp] theorem relocate_isClass (x : Handle) :
    ((t.relocate old h oldOwner owner).entity x).isClass = (t.entity x).isClass :=
  Entity.isClass_eq_of_bare (t.relocate_bare old h oldOwner owner x)

end Relocate

/-! ## §6 Displacing a class -/

/-- Where the members of a displaced class go: into the class that takes its key, or to the top
    level when what takes the key is no class. -/
def heir (t : Tree) (h : Handle) : Option Handle := if (t.entity h).isClass then some h else none

section Retire

variable (key : Bytes) (old h : Handle)

theorem retire_of_not_class (hold : (t.entity old).isClass = false) : t.retire key old h = t := by
  simp [retire, hold]

/-- A class in the stead of a class takes its members over. -/
theorem retire_to_class (hold : (t.entity old).isClass = true) (hnew : (t.entity h).isClass = true) :
    t.retire key old h =
      ({ t with classes := t.classes.remove key }.modify h
        (·.withMembers (t.entity old).members)).reownAll (some h) (t.entity old).members := by
  unfold retire rehome
  rw [if_pos hold]
  -- dropping the registration keeps the store, so the test sees the same entity
  exact if_pos hnew

/-- Anything else in the stead of a class sends its members to the top level. -/
theorem retire_to_other (hold : (t.entity old).isClass = true)
    (hnew : (t.entity h).isClass = false) :
    t.retire key old h =
      { { t with classes := t.classes.remove key }.reownAll none (t.entity old).members with
        root := t.root ++ (t.entity old).members } := by
  unfold retire rehome
  rw [if_pos hold]
  exact if_neg (ne_of_eq_of_ne hnew Bool.false_ne_true)

@[simp] theorem retire_index : (t.retire key old h).index = t.index := by
  unfold retire rehome; split <;> [split; skip] <;> rfl

@[simp] theorem retire_order : (t.retire key old h).order = t.order := by
  unfold retire rehome; split <;> [split; skip] <;> rfl

@[simp] theorem retire_store_size : (t.retire key old h).store.size = t.store.size := by
  unfold retire rehome; split <;> [split; skip] <;> simp [reownAll, modify]

@[simp] theorem retire_bare (x : Handle) :
    ((t.retire key old h).entity x).bare = (t.entity x).bare := by
  unfold retire rehome
  split
  · split
    · exact bare_modify _ (fun e => e.bare_withMembers _) x
    · rfl
  · rfl

@[simp] theorem retire_key (x : Handle) : ((t.retire key old h).entity x).key = (t.entity x).key :=
  Entity.key_eq_of_bare (t.retire_bare key old h x)

@[simp] theorem retire_isClass (x : Handle) :
    ((t.retire key old h).entity x).isClass = (t.entity x).isClass :=
  Entity.isClass_eq_of_bare (t.retire_bare key old h x)

/-- A displaced class is no longer registered as one; the other classes still are. -/
theorem retire_classes_find? (k : Bytes) :
    (t.retire key old h).classes.find? k =
      if k = key ∧ (t.entity old).isClass = true then none else t.classes.find? k := by
  cases hold : (t.entity old).isClass with
  | false => simp [t.retire_of_not_class key old h hold]
  | true =>
    have hclasses : (t.retire key old h).classes = t.classes.remove key := by
      cases hnew : (t.entity h).isClass with
      | false => rw [t.retire_to_other key old h hold hnew]; rfl
      | true => rw [t.retire_to_class key old h hold hnew]; rfl
    simp [hclasses, Table.find?_remove]

/-- The members of a displaced class get its heir as their owner. -/
theorem retire_owners_find? (k : Bytes) :
    (t.retire key old h).owners.find? k =
      if ∃ m ∈ (t.entity old).members, (t.entity m).key = k then some (t.heir h)
      else t.owners.find? k := by
  cases hold : (t.entity old).isClass with
  | false =>
    simp [t.retire_of_not_class key old h hold, Entity.members_eq_nil hold]
  | true =>
    cases hnew : (t.entity h).isClass with
    | false =>
      rw [t.retire_to_other key old h hold hnew]
      simp only [heir, hnew]
      exact Table.find?_putAll (fun x => (t.entity x).key) none _ t.owners k
    | true =>
      -- the new class has its members already when their owners are recorded
      have hkey : ∀ x, (({ t with classes := t.classes.remove key }.modify h
          (·.withMembers (t.entity old).members)).entity x).key = (t.entity x).key :=
        fun x => Entity.key_eq_of_bare (bare_modify _ (fun e => e.bare_withMembers _) x)
      rw [t.retire_to_class key old h hold hnew]
      simp only [heir, hnew, if_true, reownAll, hkey]
      exact Table.find?_putAll (fun x => (t.entity x).key) (some h) _ t.owners k

/-- The heir of a displaced class holds the members of that class after its own. -/
theorem retire_container (hlt : h < t.store.size) (hfresh : (t.entity h).members = [])
    (c : Option Handle) :
    (t.retire key old h).container c =
      if c = t.heir h then t.container c ++ (t.entity old).members else t.container c := by
  cases hold : (t.entity old).isClass with
  | false =>
    simp [t.retire_of_not_class key old h hold, Entity.members_eq_nil hold]
  | true =>
    cases hnew : (t.entity h).isClass with
    | false =>
      rw [t.retire_to_other key old h hold hnew]
      simp only [heir, hnew]
      cases c with
      | none => simp [container]
      | some x => rfl
    | true =>
      rw [t.retire_to_class key old h hold hnew]
      -- recording owners does not touch any container
      change ({ t with classes := t.classes.remove key }.modify h
        (·.withMembers (t.entity old).members)).container c = _
      cases c with
      | none => simp [container, modify, heir, hnew]
      | some x =>
        have hentity : ∀ x, ({ t with classes := t.classes.remove key } : Tree).entity x =
          t.entity x := fun _ => rfl
        by_cases hx : x = h
        · -- the new class was empty, so its members are those it takes over
          subst hx
          simp [container, entity_modify, hentity, heir, hnew, hlt, hfresh,
            Entity.withMembers_members]
        · simp [container, entity_modify, hentity, heir, hnew, hx]

end Retire

@[simp] theorem attach_store_size (h : Handle) (owner : Option Handle) :
    (t.attach h owner).1.store.size = t.store.size := by
  unfold attach
  dsimp only
  split <;> simp

/-- Attaching changes nothing of any entity but its members. -/
theorem attach_bare (h : Handle) (owner : Option Handle) (x : Handle) :
    ((t.attach h owner).1.entity x).bare = (t.entity x).bare := by
  unfold attach
  dsimp only
  split
  · rw [modifyContainer_bare, register_entity]
    rfl
  · rw [relocate_bare, register_entity, retire_bare]

end Tree

end DocPages
