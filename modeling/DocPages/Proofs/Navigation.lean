import DocPages.Page.Markup
import DocPages.Proofs.SessionRun
import Mathlib.Data.List.Perm.Basic

/-!
# Places in the Navigation

The navigation list shows two levels only: the top level, and the members of each class there.  That
this shows everything is a property of reading: no run of declarations puts a class inside a class
or leaves an entity in no container or in two.

## Main results

- `Tree.outline`, `Tree.placements`: what the navigation list shows, and where
- `Tree.Nested.class_mem_root`, `Tree.Nested.member_not_class`: classes stand at the top level only
- `Tree.Nested.placements_perm`: each indexed entity has one place, below its owner
-/

namespace DocPages

namespace Tree

/-! ## §1 Items -/

/-- The items of the navigation list: each top-level entity with the entities one level below. -/
def outline (t : Tree) : List (Handle × List Handle) :=
  t.root.map fun h => (h, (t.entity h).members)

/-- Where an item stands: the entity it is for, and the class whose item it is below. -/
structure Placement where
  entity : Handle
  under : Option Handle
  deriving DecidableEq, Repr

/-- The places of one item and of the items below it. -/
def itemPlacements (item : Handle × List Handle) : List Placement :=
  ⟨item.1, none⟩ :: item.2.map fun m => ⟨m, some item.1⟩

/-- The places of all items of an outline. -/
def placements (items : List (Handle × List Handle)) : List Placement :=
  items.flatMap itemPlacements

/-! ## §2 One item for each entity -/

namespace Nested

variable {t : Tree}

/-- An indexed class stands at the top level. -/
theorem class_mem_root (ht : t.Nested) {c : Handle} (hc : t.IsIndexedClass c) : c ∈ t.root := by
  have hindex := ht.invariant.find?_key hc
  obtain ⟨o, ho⟩ := Option.isSome_iff_exists.1
    ((ht.invariant.owned_iff (t.entity c).key).2 (by simp [hindex]))
  cases o with
  | none => exact (ht.invariant.mem_root_iff c).2 ⟨hindex, ho⟩
  | some o =>
    -- an owned entity is no class
    obtain ⟨k, -, hclass⟩ := hc
    rw [ht.flat _ c o hindex ho] at hclass
    exact absurd hclass Bool.false_ne_true

/-- No member of an indexed class is a class. -/
theorem member_not_class (ht : t.Nested) {c m : Handle} (hc : t.IsIndexedClass c)
    (hm : m ∈ (t.entity c).members) : (t.entity m).isClass = false := by
  obtain ⟨hindex, howner⟩ := (ht.invariant.mem_members_iff (ht.invariant.find?_key hc) m).1 hm
  exact ht.flat _ m c hindex howner

theorem mem_placements_iff (ht : t.Nested) (p : Placement) :
    p ∈ placements t.outline ↔ t.index.find? (t.entity p.entity).key = some p.entity ∧
      t.owners.find? (t.entity p.entity).key = some p.under := by
  obtain ⟨h, under⟩ := p
  simp only [placements, outline, List.flatMap_map, List.mem_flatMap, itemPlacements, List.mem_cons,
    List.mem_map, Placement.mk.injEq]
  cases under with
  | none =>
    rw [← ht.invariant.mem_root_iff h]
    constructor
    · rintro ⟨c, hc, ⟨rfl, -⟩ | ⟨m, -, -, hm⟩⟩
      · exact hc
      · simp at hm
    · intro hroot
      exact ⟨h, hroot, Or.inl ⟨rfl, rfl⟩⟩
  | some o =>
    -- the item of an owner is there because classes stand at the top level
    constructor
    · rintro ⟨c, hc, ⟨-, hm⟩ | ⟨m, hm, rfl, hmo⟩⟩
      · simp at hm
      · obtain rfl : c = o := Option.some.inj hmo
        exact (ht.invariant.mem_members_iff ((ht.invariant.mem_root_iff c).1 hc).1 m).1 hm
    · rintro ⟨hindex, howner⟩
      obtain ⟨hclass, -⟩ := ht.invariant.owner_indexed _ _ howner
      have hmem := (ht.invariant.mem_members_iff (ht.invariant.find?_key hclass) h).2
        ⟨hindex, howner⟩
      exact ⟨o, ht.class_mem_root hclass, Or.inr ⟨h, hmem, rfl, rfl⟩⟩

theorem placements_nodup (ht : t.Nested) : (placements t.outline).Nodup := by
  have hroot : t.root.Nodup := (ht.invariant.placed none t.isContainer_none).nodup
  simp only [placements, outline, List.flatMap_map]
  rw [List.nodup_flatMap]
  constructor
  · intro c hc
    have hindex := ((ht.invariant.mem_root_iff c).1 hc).1
    unfold itemPlacements
    refine List.nodup_cons.2 ⟨by simp, ?_⟩
    exact (ht.invariant.members_nodup hindex).map fun m m' h => (Placement.mk.inj h).1
  · -- an item at the top level names its entity, one below names the class it is below
    refine hroot.imp ?_
    intro c c' hne
    refine List.disjoint_left.2 ?_
    rintro ⟨h, under⟩ hp hp'
    simp only [itemPlacements, List.mem_cons, List.mem_map, Placement.mk.injEq] at hp hp'
    rcases hp with ⟨rfl, rfl⟩ | ⟨m, -, rfl, rfl⟩
    · rcases hp' with ⟨rfl, -⟩ | ⟨m', -, -, hm'⟩
      · exact hne rfl
      · simp at hm'
    · rcases hp' with ⟨-, hm⟩ | ⟨m', -, -, hm'⟩
      · simp at hm
      · exact hne (Option.some.inj hm').symm

/-- Every indexed entity has exactly one item, below the item of its owner or at the top level. -/
theorem placements_perm (ht : t.Nested) :
    (placements t.outline).Perm
      (t.entities.map fun h => ⟨h, t.owner? (t.entity h).key⟩) := by
  have hnodup : (t.entities.map fun h => (⟨h, t.owner? (t.entity h).key⟩ : Placement)).Nodup :=
    ht.invariant.entities_nodup.map fun h h' heq => (Placement.mk.inj heq).1
  -- neither list repeats anything, so it is enough that they have the same elements
  rw [List.perm_ext_iff_of_nodup ht.placements_nodup hnodup]
  rintro ⟨h, under⟩
  rw [ht.mem_placements_iff]
  simp only [List.mem_map, Placement.mk.injEq]
  constructor
  · rintro ⟨hindex, howner⟩
    exact ⟨h, (ht.invariant.mem_entities_iff h).2 hindex, rfl,
      (ht.invariant.owner?_eq_iff hindex under).2 howner⟩
  · rintro ⟨h', hmem, rfl, howner⟩
    have hindex := (ht.invariant.mem_entities_iff h').1 hmem
    exact ⟨hindex, (ht.invariant.owner?_eq_iff hindex under).1 howner⟩

end Nested

end Tree

end DocPages
