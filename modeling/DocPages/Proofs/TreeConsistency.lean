import DocPages.Proofs.TreeViews

/-!
# Consistency of the Tree

The four tables of a tree and its containers tell one story: the order lists the indexed keys, the
classes are the indexed classes, every recorded owner is one of them, and every indexed entity
stands exactly once in the container that its owner entry names and in no other.

The proof says once what attaching an entity does to each view (`Reassigned`).  The invariant of
one step follows from that description alone, and consistency follows by induction on the run.

## Main results

- `Tree.Consistent`: the agreement of the views
- `Tree.Reached`: the trees that attaching fresh entities can reach
- `Tree.attach_reassigned`: what one attachment changes
- `Tree.Reached.views_agree`: every reached tree is consistent
-/

namespace DocPages

namespace Tree

/-! ## §1 Consistency -/

/-- A class that the index holds now. -/
def IsIndexedClass (t : Tree) (o : Handle) : Prop :=
  ∃ k, t.index.find? k = some o ∧ (t.entity o).isClass = true

/-- The containers of a tree: the top level and the classes that the index holds now. -/
def IsContainer (t : Tree) (c : Option Handle) : Prop := ∀ o ∈ c, t.IsIndexedClass o

/-- The views of a tree agree. -/
structure Consistent (t : Tree) : Prop where
  /-- No key is listed twice. -/
  order_nodup : t.order.Nodup
  /-- The listed keys are the indexed ones. -/
  mem_order_iff : ∀ k, k ∈ t.order ↔ ∃ h, t.index.find? k = some h
  /-- The registered classes are the indexed classes. -/
  class_iff : ∀ k c, t.classes.find? k = some c ↔
    t.index.find? k = some c ∧ (t.entity c).isClass = true
  /-- Every recorded owner is a class of the index. -/
  owner_indexed : ∀ k o, t.owners.find? k = some (some o) → t.IsIndexedClass o
  /-- Every indexed entity has an owner entry, stands once in the container that the entry names,
      and stands in no other container. -/
  placed_once : ∀ k h, t.index.find? k = some h → ∃ c, t.owners.find? k = some c ∧
    t.IsContainer c ∧ (t.container c).count h = 1 ∧
    ∀ c', t.IsContainer c' → c' ≠ c → h ∉ t.container c'
  /-- A container holds only the entities that stand for their keys. -/
  held_indexed : ∀ c, t.IsContainer c → ∀ h ∈ t.container c,
    t.index.find? (t.entity h).key = some h

/-! ## §2 The runs -/

/-- An entity that can be attached: the tree has made it, it does not stand for its key, and it
    has no members yet. -/
def Fresh (t : Tree) (h : Handle) : Prop :=
  h < t.store.size ∧ t.lookup? (t.entity h).key ≠ some h ∧ (t.entity h).members = []

/-- An owner that an entity can be attached to: the top level, or the class registered under the
    owner's key, which is not the key of the entity. -/
def Admits (t : Tree) (owner : Option Handle) (h : Handle) : Prop :=
  ∀ o ∈ owner, t.class? (t.entity o).key = some o ∧ (t.entity o).key ≠ (t.entity h).key

/-- A change of an entity that concerns neither its key nor its members. -/
structure KeepsPlace (f : Entity → Entity) : Prop where
  key : ∀ e, (f e).key = e.key
  isClass : ∀ e, (f e).isClass = e.isClass
  members : ∀ e, (f e).members = e.members

/-- The trees that a run of attachments reaches from the empty tree.  Between attachments entities
    may be made, their texts revised and the product named. -/
inductive Reached : Tree → Prop where
  | empty : Reached Tree.empty
  | create {t : Tree} (e : Entity) : Reached t → Reached (t.create e).1
  | attach {t : Tree} (h : Handle) (owner : Option Handle) :
      Reached t → t.Fresh h → t.Admits owner h → Reached (t.attach h owner).1
  | revise {t : Tree} (h : Handle) {f : Entity → Entity} :
      Reached t → KeepsPlace f → Reached (t.modify h f)
  | name {t : Tree} (product : Bytes) : Reached t → Reached { t with product }

/-! ## §3 The invariant -/

/-- A container whose entities are those that the tables place there, each once. -/
structure Placed (t : Tree) (c : Option Handle) : Prop where
  nodup : (t.container c).Nodup
  mem_iff : ∀ x, x ∈ t.container c ↔
    t.index.find? (t.entity x).key = some x ∧ t.owners.find? (t.entity x).key = some c

/-- What every attachment preserves.  Beyond consistency it says that no entity is its own owner,
    which rules out that displacing a class displaces the container of its successor. -/
structure Invariant (t : Tree) : Prop where
  order_nodup : t.order.Nodup
  index_keys : t.index.map Prod.fst = t.order
  stored : ∀ k h, t.index.find? k = some h → h < t.store.size ∧ (t.entity h).key = k
  class_iff : ∀ k c, t.classes.find? k = some c ↔
    t.index.find? k = some c ∧ (t.entity c).isClass = true
  owned_iff : ∀ k, (t.owners.find? k).isSome ↔ (t.index.find? k).isSome
  owner_indexed : ∀ k o, t.owners.find? k = some (some o) →
    t.IsIndexedClass o ∧ (t.entity o).key ≠ k
  placed : ∀ c, t.IsContainer c → t.Placed c

theorem isContainer_none (t : Tree) : t.IsContainer none := fun _ ho => by simp at ho

theorem isContainer_some {t : Tree} {k : Bytes} {o : Handle} (ho : t.index.find? k = some o)
    (hclass : (t.entity o).isClass = true) : t.IsContainer (some o) := by
  intro o' ho'
  obtain rfl : o = o' := Option.some.inj ho'
  exact ⟨k, ho, hclass⟩

namespace Invariant

variable {t : Tree}

/-- The owner entry of a key names a container. -/
theorem isContainer_of_owner (ht : t.Invariant) {k : Bytes} {c : Option Handle}
    (hc : t.owners.find? k = some c) : t.IsContainer c := by
  intro o ho
  obtain rfl : c = some o := ho
  exact (ht.owner_indexed k o hc).1

/-- An indexed class is what the index holds under its own key. -/
theorem find?_key (ht : t.Invariant) {o : Handle} (ho : t.IsIndexedClass o) :
    t.index.find? (t.entity o).key = some o := by
  obtain ⟨k, hk, -⟩ := ho
  rw [(ht.stored k o hk).2]
  exact hk

theorem holds (ht : t.Invariant) {c : Option Handle} (hc : t.IsContainer c) : t.Holds c := by
  intro o ho
  obtain ⟨k, hk, hclass⟩ := hc o ho
  exact ⟨(ht.stored k o hk).1, hclass⟩

theorem mem_order_iff (ht : t.Invariant) (k : Bytes) : k ∈ t.order ↔ (t.index.find? k).isSome := by
  rw [← ht.index_keys]
  exact Table.mem_keys_iff t.index k

theorem consistent (ht : t.Invariant) : t.Consistent where
  order_nodup := ht.order_nodup
  mem_order_iff k := by rw [ht.mem_order_iff, Option.isSome_iff_exists]
  class_iff := ht.class_iff
  owner_indexed k o ho := (ht.owner_indexed k o ho).1
  placed_once k h hk := by
    obtain ⟨c, hc⟩ := Option.isSome_iff_exists.1 ((ht.owned_iff k).2 (by simp [hk]))
    have hcontainer : t.IsContainer c := ht.isContainer_of_owner hc
    have hkey : (t.entity h).key = k := (ht.stored k h hk).2
    have hmem : h ∈ t.container c := ((ht.placed c hcontainer).mem_iff h).2 (by simp [hkey, hk, hc])
    refine ⟨c, hc, hcontainer, List.count_eq_one_of_mem (ht.placed c hcontainer).nodup hmem, ?_⟩
    intro c' hc' hne hmem'
    -- an entity in two containers would have two owner entries
    have howner := (((ht.placed c' hc').mem_iff h).1 hmem').2
    rw [hkey, hc] at howner
    exact hne (Option.some.inj howner).symm
  held_indexed c hc h hmem := (((ht.placed c hc).mem_iff h).1 hmem).1

end Invariant

/-! ## §4 Containers under one attachment -/

/-- A container that stays one when another entity takes the key `key`. -/
def Survives (t : Tree) (key : Bytes) (c : Option Handle) : Prop :=
  ∀ o ∈ c, t.IsIndexedClass o ∧ (t.entity o).key ≠ key

theorem Survives.isContainer {t : Tree} {key : Bytes} {c : Option Handle} (hc : t.Survives key c) :
    t.IsContainer c := fun o ho => (hc o ho).1

/-- Replacing the one occurrence of `old` by something new. -/
theorem replaceFirst_spec {old h : Handle} {l : List Handle} (hl : l.Nodup) (hold : old ∈ l)
    (hh : h ∉ l) :
    (replaceFirst old h l).Nodup ∧ ∀ x, x ∈ replaceFirst old h l ↔ (x ∈ l ∧ x ≠ old) ∨ x = h := by
  induction l with
  | nil => simp at hold
  | cons a rest ih =>
    obtain ⟨ha, hrest⟩ := List.nodup_cons.1 hl
    obtain ⟨hha, hhrest⟩ : h ≠ a ∧ h ∉ rest := by simpa using hh
    unfold replaceFirst
    by_cases heq : a = old
    · -- the head is replaced; `old` occurs once, so the rest holds none
      subst heq
      simp only [if_true]
      refine ⟨List.nodup_cons.2 ⟨hhrest, hrest⟩, ?_⟩
      intro x
      have hx : x ∈ rest → x ≠ a := fun hx hxa => ha (hxa ▸ hx)
      simp only [List.mem_cons]
      tauto
    · have hold' : old ∈ rest := by
        rcases List.mem_cons.1 hold with rfl | h'
        · exact absurd rfl heq
        · exact h'
      obtain ⟨hnodup, hmem⟩ := ih hrest hold' hhrest
      simp only [heq, if_false]
      refine ⟨List.nodup_cons.2 ⟨?_, hnodup⟩, ?_⟩
      · intro hmem'
        rcases (hmem a).1 hmem' with ⟨h', -⟩ | h'
        · exact ha h'
        · exact hha h'.symm
      · intro x
        have hxa : x = a → x ≠ old := fun hxa hxo => heq (hxa.symm.trans hxo)
        simp only [List.mem_cons, hmem]
        tauto

/-- What a container holds after `h` took the place of `old`. -/
theorem relocate_spec {t : Tree} {old h : Handle} {oldOwner owner c : Option Handle}
    (hholdsOld : t.Holds oldOwner) (hholds : t.Holds owner) (hnodup : (t.container c).Nodup)
    (hold : old ∈ t.container oldOwner) (hplace : old ∈ t.container c → c = oldOwner)
    (hnew : h ∉ t.container c) :
    ((t.relocate old h oldOwner owner).container c).Nodup ∧
      ∀ x, x ∈ (t.relocate old h oldOwner owner).container c ↔
        (x ∈ t.container c ∧ x ≠ old) ∨ (x = h ∧ c = owner) := by
  have hother : c ≠ oldOwner → ∀ x ∈ t.container c, x ≠ old := by
    intro hc x hx hxo
    exact hc (hplace (hxo ▸ hx))
  have happend : (t.container c ++ [h]).Nodup := by
    simpa only [List.concat_eq_append] using hnodup.concat hnew
  unfold relocate
  by_cases hsame : oldOwner = owner
  · -- the owner stays: the new entity takes the seat of the old one
    subst hsame
    rw [if_pos rfl, if_pos hold, container_modifyContainer t hholds]
    by_cases hc : c = oldOwner
    · subst hc
      simpa using replaceFirst_spec hnodup hold hnew
    · have := hother hc
      simp only [hc, if_false, and_false, or_false]
      exact ⟨hnodup, fun x => ⟨fun hx => ⟨hx, this x hx⟩, fun hx => hx.1⟩⟩
  · -- the owner changes: out of the one container, to the end of the other
    rw [if_neg hsame, container_modifyContainer _ (hholds.modifyContainer _ _),
      container_modifyContainer t hholdsOld]
    by_cases hc : c = owner
    · have hne : c ≠ oldOwner := fun h' => hsame (h'.symm.trans hc)
      have := hother hne
      rw [if_pos hc, if_neg hne]
      refine ⟨happend, ?_⟩
      intro x
      rw [List.mem_append, List.mem_singleton]
      exact ⟨fun hx => hx.imp (fun hx => ⟨hx, this x hx⟩) (fun hx => ⟨hx, hc⟩),
        fun hx => hx.imp And.left And.left⟩
    · rw [if_neg hc]
      by_cases hco : c = oldOwner
      · simp only [hco, if_true]
        rw [hco] at hnodup
        refine ⟨hnodup.erase old, ?_⟩
        intro x
        rw [hnodup.mem_erase_iff]
        simp [hsame, and_comm]
      · have := hother hco
        simp only [hco, hc, if_false, and_false, or_false]
        exact ⟨hnodup, fun x => ⟨fun hx => ⟨hx, this x hx⟩, fun hx => hx.1⟩⟩

/-- A container stays well placed when one key gets a new entity, provided that the container gave
    up the old entity of that key and took the new one exactly when it is the new owner. -/
theorem Placed.seat {t t' : Tree} {h : Handle} {owner c : Option Handle} (hc : t.Placed c)
    (hkey : ∀ x, (t'.entity x).key = (t.entity x).key)
    (hindex : ∀ k, t'.index.find? k = if k = (t.entity h).key then some h else t.index.find? k)
    (howners : ∀ k, t'.owners.find? k =
      if k = (t.entity h).key then some owner else t.owners.find? k)
    (hnodup : (t'.container c).Nodup)
    (hmem : ∀ x, x ∈ t'.container c ↔
      (x ∈ t.container c ∧ (t.entity x).key ≠ (t.entity h).key) ∨ (x = h ∧ c = owner)) :
    t'.Placed c := by
  refine ⟨hnodup, ?_⟩
  intro x
  rw [hmem, hkey, hindex, howners, hc.mem_iff]
  by_cases hx : (t.entity x).key = (t.entity h).key
  · -- under the key itself only the new entity is left
    simp [hx, eq_comm]
  · have hne : x ≠ h := fun h' => hx (by rw [h'])
    simp [hx, hne]

/-! ## §5 What one attachment changes -/

/-- The container that takes over from `c` when `h` takes its key: the members of a class displaced
    by `h` pass to the heir, everything else stays where it is. -/
def moved (t : Tree) (h : Handle) (c : Option Handle) : Option Handle :=
  if c.isSome ∧ c = t.lookup? (t.entity h).key then t.heir h else c

/-- All that attaching `h` to `owner` changes in the views of a tree. -/
structure Reassigned (t t' : Tree) (h : Handle) (owner : Option Handle) : Prop where
  size : t'.store.size = t.store.size
  key : ∀ x, (t'.entity x).key = (t.entity x).key
  isClass : ∀ x, (t'.entity x).isClass = (t.entity x).isClass
  /-- A new key is listed last; a known one keeps its place. -/
  order : t'.order =
    if (t.index.find? (t.entity h).key).isSome then t.order else t.order ++ [(t.entity h).key]
  index_keys : t'.index.map Prod.fst = t'.order
  index : ∀ k, t'.index.find? k = if k = (t.entity h).key then some h else t.index.find? k
  classes : ∀ k, t'.classes.find? k =
    if k = (t.entity h).key then t.heir h else t.classes.find? k
  owners : ∀ k, t'.owners.find? k =
    if k = (t.entity h).key then some owner else (t.owners.find? k).map (t.moved h)
  /-- The containers that stay and the heir hold what the tables say. -/
  placed : ∀ c, t.Survives (t.entity h).key c ∨ c = t.heir h → t'.Placed c

section Attach

variable {t : Tree} {h old : Handle} {owner : Option Handle}

theorem Admits.survives (ht : t.Invariant) (ha : t.Admits owner h) :
    t.Survives (t.entity h).key owner := by
  intro o ho
  obtain ⟨hclass, hne⟩ := ha o ho
  exact ⟨⟨_, (ht.class_iff _ _).1 hclass⟩, hne⟩

/-- No entry names an entity as owner that the index does not hold. -/
theorem Fresh.not_owner (ht : t.Invariant) (hf : t.Fresh h) (k : Bytes) :
    t.owners.find? k ≠ some (some h) := by
  intro hk
  exact hf.2.1 (ht.find?_key (ht.owner_indexed k h hk).1)

/-- The containers that matter after the attachment are well placed before it: a fresh class has no
    members and owns nothing. -/
theorem placed_before (ht : t.Invariant) (hf : t.Fresh h) {c : Option Handle}
    (hc : t.Survives (t.entity h).key c ∨ c = t.heir h) : t.Placed c := by
  rcases hc with hc | rfl
  · exact ht.placed c hc.isContainer
  · unfold heir
    cases hclass : (t.entity h).isClass with
    | false => exact ht.placed none t.isContainer_none
    | true =>
      -- the heir is the fresh class, empty and named as an owner nowhere
      have hnil : t.container (some h) = [] := hf.2.2
      refine ⟨by simp [hnil], ?_⟩
      intro x
      simp only [if_true, hnil, List.not_mem_nil, false_iff, not_and]
      intro _
      exact hf.not_owner ht _

/-- The members of an indexed entity are the entities whose owner entry names it. -/
theorem Invariant.mem_members_iff (ht : t.Invariant) {k : Bytes} (hold : t.index.find? k = some old)
    (m : Handle) :
    m ∈ (t.entity old).members ↔ t.index.find? (t.entity m).key = some m ∧
      t.owners.find? (t.entity m).key = some (some old) := by
  cases hclass : (t.entity old).isClass with
  | true =>
    exact (ht.placed (some old) (isContainer_some hold hclass)).mem_iff m
  | false =>
    rw [Entity.members_eq_nil hclass]
    simp only [List.not_mem_nil, false_iff, not_and]
    intro _ howner
    -- only classes are recorded as owners
    obtain ⟨⟨_, _, hclass'⟩, _⟩ := ht.owner_indexed _ _ howner
    rw [hclass] at hclass'
    exact absurd hclass' Bool.false_ne_true

theorem Invariant.members_nodup (ht : t.Invariant) {k : Bytes}
    (hold : t.index.find? k = some old) : (t.entity old).members.Nodup := by
  cases hclass : (t.entity old).isClass with
  | true =>
    exact (ht.placed (some old) (isContainer_some hold hclass)).nodup
  | false => simp [Entity.members_eq_nil hclass]

/-- Displacing an entity moves exactly the owner entries that name it. -/
theorem retire_owners_moved (ht : t.Invariant) (hold : t.index.find? (t.entity h).key = some old)
    (k : Bytes) :
    (t.retire (t.entity h).key old h).owners.find? k = (t.owners.find? k).map (t.moved h) := by
  have hiff : (∃ m ∈ (t.entity old).members, (t.entity m).key = k) ↔
      t.owners.find? k = some (some old) := by
    constructor
    · rintro ⟨m, hm, rfl⟩
      exact ((ht.mem_members_iff hold m).1 hm).2
    · intro howner
      obtain ⟨m, hm⟩ := Option.isSome_iff_exists.1 ((ht.owned_iff k).1 (by simp [howner]))
      obtain ⟨-, hkey⟩ := ht.stored k m hm
      exact ⟨m, (ht.mem_members_iff hold m).2 (by simp [hkey, hm, howner]), hkey⟩
  have hlookup : t.lookup? (t.entity h).key = some old := hold
  rw [retire_owners_find?]
  by_cases howner : t.owners.find? k = some (some old)
  · simp [hiff, howner, moved, hlookup]
  · rw [if_neg (fun h' => howner (hiff.1 h'))]
    cases hc : t.owners.find? k with
    | none => rfl
    | some c =>
      have hne : c ≠ some old := fun h' => howner (by rw [hc, h'])
      simp [moved, hlookup, hne]

/-- After displacing an entity, the containers that stay and the heir hold what the tables say. -/
theorem retire_placed (ht : t.Invariant) (hf : t.Fresh h)
    (hold : t.index.find? (t.entity h).key = some old) {c : Option Handle}
    (hc : t.Survives (t.entity h).key c ∨ c = t.heir h) :
    (t.retire (t.entity h).key old h).Placed c := by
  have hp : t.Placed c := placed_before ht hf hc
  have hlookup : t.lookup? (t.entity h).key = some old := hold
  have hne : h ≠ old := fun h' => hf.2.1 (h' ▸ hold)
  have hheir : t.heir h ≠ some old := by
    unfold heir
    split
    · exact fun h' => hne (Option.some.inj h')
    · nofun
  have hcold : c ≠ some old := by
    rintro rfl
    rcases hc with hc | hc
    · exact (hc old rfl).2 (ht.stored _ _ hold).2
    · exact hheir hc.symm
  constructor
  · rw [retire_container t _ _ _ hf.1 hf.2.2]
    split
    · -- what the heir gets stood in the displaced class, hence not in the heir's container
      rw [List.nodup_append]
      refine ⟨hp.nodup, ht.members_nodup hold, ?_⟩
      rintro a ha _ hb rfl
      have howner := ((hp.mem_iff a).1 ha).2
      rw [((ht.mem_members_iff hold a).1 hb).2] at howner
      exact hcold (Option.some.inj howner).symm
    · exact hp.nodup
  · intro x
    rw [retire_container t _ _ _ hf.1 hf.2.2, retire_index, retire_key, retire_owners_moved ht hold]
    cases howner : t.owners.find? (t.entity x).key with
    | none =>
      -- without an owner entry `x` is in no container, before or after
      have hx : x ∉ t.container c := fun hx => by
        have := ((hp.mem_iff x).1 hx).2
        simp [howner] at this
      have hm : x ∉ (t.entity old).members := fun hm => by
        have := ((ht.mem_members_iff hold x).1 hm).2
        simp [howner] at this
      split <;> simp [hx, hm]
    | some c₀ =>
      have hx := hp.mem_iff x
      have hm := ht.mem_members_iff hold x
      rw [howner] at hx hm
      by_cases hc₀ : c₀ = some old
      · -- a member of the displaced class: it is now where the heir is
        subst hc₀
        have hx' : x ∉ t.container c := fun hx' => hcold (Option.some.inj (hx.1 hx').2).symm
        by_cases hch : c = t.heir h
        · simp [hch, moved, hlookup, hm, hch ▸ hx']
        · simp [hch, moved, hlookup, hx', Ne.symm hch]
      · -- any other entity stays where it was
        have hm' : x ∉ (t.entity old).members := fun hm' => hc₀ (Option.some.inj (hm.1 hm').2)
        have hmoved : t.moved h c₀ = c₀ := by simp [moved, hlookup, hc₀]
        split <;> simp [hm', hmoved, hx]

/-- A key names no class when what the index has under it is none. -/
theorem Invariant.classes_eq_none (ht : t.Invariant) {k : Bytes}
    (hk : ∀ c, t.index.find? k = some c → (t.entity c).isClass = false) :
    t.classes.find? k = none := by
  rw [Option.eq_none_iff_forall_ne_some]
  intro c hc
  obtain ⟨hindex, hclass⟩ := (ht.class_iff k c).1 hc
  rw [hk c hindex] at hclass
  exact absurd hclass Bool.false_ne_true

/-- The tree with one more key in its order. -/
def listed (t : Tree) (key : Bytes) : Tree := { t with order := t.order ++ [key] }

@[simp] theorem listed_order (key : Bytes) : (t.listed key).order = t.order ++ [key] := rfl

@[simp] theorem listed_index (key : Bytes) : (t.listed key).index = t.index := rfl

@[simp] theorem listed_owners (key : Bytes) : (t.listed key).owners = t.owners := rfl

@[simp] theorem listed_classes (key : Bytes) : (t.listed key).classes = t.classes := rfl

@[simp] theorem listed_store (key : Bytes) : (t.listed key).store = t.store := rfl

@[simp] theorem listed_entity (key : Bytes) (x : Handle) :
    (t.listed key).entity x = t.entity x := rfl

@[simp] theorem listed_container (key : Bytes) (c : Option Handle) :
    (t.listed key).container c = t.container c := by cases c <;> rfl

/-- A new key: its entity is added at the end of its owner's container. -/
theorem append_placed (ht : t.Invariant) (hf : t.Fresh h) (ha : t.Admits owner h)
    (hnone : t.index.find? (t.entity h).key = none) {c : Option Handle}
    (hc : t.Survives (t.entity h).key c ∨ c = t.heir h) :
    (((t.listed (t.entity h).key).register (t.entity h).key h owner).modifyContainer owner
      (· ++ [h])).Placed c := by
  have hp : t.Placed c := placed_before ht hf hc
  have hnot : h ∉ t.container c := fun hmem => by simp [((hp.mem_iff h).1 hmem).1] at hnone
  have hholds : t.Holds owner := ht.holds (ha.survives ht).isContainer
  have hcontains : (((t.listed (t.entity h).key).register (t.entity h).key h owner).modifyContainer
      owner (· ++ [h])).container c = if c = owner then t.container c ++ [h] else t.container c := by
    rw [container_modifyContainer _ (by simpa [Holds] using hholds),
      register_container, listed_container]
  have hindex : ∀ k, (t.index.put (t.entity h).key h).find? k =
      if k = (t.entity h).key then some h else t.index.find? k := Table.find?_put _ _ _
  have howners : ∀ k, (t.owners.put (t.entity h).key owner).find? k =
      if k = (t.entity h).key then some owner else t.owners.find? k := Table.find?_put _ _ _
  refine hp.seat (by simp) (by simpa using hindex) (by simpa using howners) ?_ ?_
  · rw [hcontains]
    split
    · simpa only [List.concat_eq_append] using hp.nodup.concat hnot
    · exact hp.nodup
  · intro x
    -- nothing that is placed has the new key
    have hkey : x ∈ t.container c → (t.entity x).key ≠ (t.entity h).key := fun hx hk => by
      simp [hk ▸ ((hp.mem_iff x).1 hx).1] at hnone
    rw [hcontains]
    by_cases hco : c = owner
    · simp only [hco, if_true, List.mem_append, List.mem_singleton, and_true]
      rw [hco] at hkey
      tauto
    · simp only [hco, if_false, and_false, or_false]
      tauto

/-- Attaching an entity under a new key. -/
theorem attach_new (ht : t.Invariant) (hf : t.Fresh h) (ha : t.Admits owner h)
    (hnone : t.index.find? (t.entity h).key = none) :
    t.Reassigned (t.attach h owner).1 h owner := by
  have hlookup : t.lookup? (t.entity h).key = none := hnone
  have hattach : (t.attach h owner).1 =
      ((t.listed (t.entity h).key).register (t.entity h).key h owner).modifyContainer owner
        (· ++ [h]) := by
    simp [attach, hlookup, listed]
  rw [hattach]
  refine
    { size := by simp
      key := by simp
      isClass := by simp
      order := by simp [hnone]
      index_keys := by simp [Table.keys_put, hnone, ht.index_keys]
      index := fun k => by simp [Table.find?_put]
      classes := ?_
      owners := ?_
      placed := fun c hc => append_placed ht hf ha hnone hc }
  · intro k
    rw [modifyContainer_classes, register_classes_find?, listed_entity]
    by_cases hk : k = (t.entity h).key
    · have hclasses : t.classes.find? (t.entity h).key = none :=
        ht.classes_eq_none fun c hc => by simp [hc] at hnone
      by_cases hclass : (t.entity h).isClass = true <;> simp [hk, heir, hclass, hclasses]
    · simp [hk]
  · intro k
    -- nothing was displaced, so no owner entry moves
    have hmoved : t.moved h = id := by
      funext c
      cases c <;> simp [moved, hlookup]
    simp [Table.find?_put, hmoved]

/-- A known key: its new entity takes the seat of the old one, or moves to its owner's container. -/
theorem relocate_placed (ht : t.Invariant) (hf : t.Fresh h) (ha : t.Admits owner h)
    (hold : t.index.find? (t.entity h).key = some old) {oldOwner : Option Handle}
    (howner : t.owners.find? (t.entity h).key = some oldOwner) {c : Option Handle}
    (hc : t.Survives (t.entity h).key c ∨ c = t.heir h) :
    (((t.retire (t.entity h).key old h).register (t.entity h).key h owner).relocate old h oldOwner
      owner).Placed c := by
  have hlookup : t.lookup? (t.entity h).key = some old := hold
  have hkeyold : (t.entity old).key = (t.entity h).key := (ht.stored _ _ hold).2
  -- the old entity's container is not the old entity, so it is not displaced with it
  have hseat : t.Survives (t.entity h).key oldOwner := fun o ho => by
    obtain rfl : oldOwner = some o := ho
    exact ht.owner_indexed _ o howner
  have hp : (t.retire (t.entity h).key old h).Placed c := retire_placed ht hf hold hc
  have hpo : (t.retire (t.entity h).key old h).Placed oldOwner :=
    retire_placed ht hf hold (Or.inl hseat)
  have howner' :
      (t.retire (t.entity h).key old h).owners.find? (t.entity h).key = some oldOwner := by
    have hne : oldOwner ≠ some old := fun h' => (hseat old h').2 hkeyold
    simp [retire_owners_moved ht hold, howner, moved, hlookup, hne]
  have hholds : ∀ c, t.IsContainer c →
      ((t.retire (t.entity h).key old h).register (t.entity h).key h owner).Holds c := by
    intro c hc o ho
    simpa using ht.holds hc o ho
  -- the old entity stands in its owner's container and nowhere else, the new one nowhere yet
  have hstood : old ∈ ((t.retire (t.entity h).key old h).register (t.entity h).key h
      owner).container oldOwner := by
    simp [hpo.mem_iff, hkeyold, hold, howner']
  have honly : old ∈ ((t.retire (t.entity h).key old h).register (t.entity h).key h
      owner).container c → c = oldOwner := by
    intro hmem
    rw [register_container, hp.mem_iff, retire_key, hkeyold, howner'] at hmem
    exact (Option.some.inj hmem.2).symm
  have hnot : h ∉ ((t.retire (t.entity h).key old h).register (t.entity h).key h
      owner).container c := by
    intro hmem
    rw [register_container, hp.mem_iff, retire_key, retire_index] at hmem
    exact hf.2.1 hmem.1
  obtain ⟨hnodup, hmem⟩ := relocate_spec (hholds _ hseat.isContainer)
    (hholds _ (ha.survives ht).isContainer) (by simpa using hp.nodup) hstood honly hnot
  have hindex : ∀ k, (t.index.put (t.entity h).key h).find? k =
      if k = (t.entity h).key then some h else t.index.find? k := Table.find?_put _ _ _
  have howners : ∀ k,
      ((t.retire (t.entity h).key old h).owners.put (t.entity h).key owner).find? k =
        if k = (t.entity h).key then some owner
        else (t.retire (t.entity h).key old h).owners.find? k := Table.find?_put _ _ _
  refine hp.seat (by simp) (by simpa using hindex) (by simpa using howners) hnodup ?_
  intro x
  -- among what is placed, the old entity is the one with the key
  have hiff : x ∈ (t.retire (t.entity h).key old h).container c →
      (x ≠ old ↔ (t.entity x).key ≠ (t.entity h).key) := by
    intro hx
    have hx' : t.index.find? (t.entity x).key = some x := by
      simpa using ((hp.mem_iff x).1 hx).1
    refine not_congr ⟨fun h' => h' ▸ hkeyold, fun h' => ?_⟩
    rw [h', hold] at hx'
    exact (Option.some.inj hx').symm
  rw [hmem, register_container, retire_key, retire_key]
  exact or_congr_left (and_congr_right hiff)

/-- Attaching an entity under a known key. -/
theorem attach_known (ht : t.Invariant) (hf : t.Fresh h) (ha : t.Admits owner h)
    (hold : t.index.find? (t.entity h).key = some old) :
    t.Reassigned (t.attach h owner).1 h owner := by
  obtain ⟨oldOwner, howner⟩ := Option.isSome_iff_exists.1
    ((ht.owned_iff (t.entity h).key).2 (by simp [hold]))
  have hlookup : t.lookup? (t.entity h).key = some old := hold
  have hattach : (t.attach h owner).1 =
      ((t.retire (t.entity h).key old h).register (t.entity h).key h owner).relocate old h
        oldOwner owner := by
    simp [attach, hlookup, owner?, howner]
  rw [hattach]
  refine
    { size := by simp
      key := by simp
      isClass := by simp
      order := by simp [hold]
      index_keys := by simp [Table.keys_put, hold, ht.index_keys]
      index := fun k => by simp [Table.find?_put]
      classes := ?_
      owners := fun k => by simp [Table.find?_put, retire_owners_moved ht hold]
      placed := fun c hc => relocate_placed ht hf ha hold howner hc }
  intro k
  rw [relocate_classes, register_classes_find?, retire_isClass, retire_classes_find?]
  by_cases hk : k = (t.entity h).key
  · cases hclass : (t.entity h).isClass with
    | true => simp [hk, heir, hclass]
    | false =>
      -- the key of a class is free once the class is displaced; other keys named no class
      cases hclass' : (t.entity old).isClass with
      | true => simp [hk, heir, hclass]
      | false =>
        have hclasses : t.classes.find? (t.entity h).key = none :=
          ht.classes_eq_none fun c hc => by rwa [← Option.some.inj (hold.symm.trans hc)]
        simp [hk, heir, hclass, hclasses]
  · simp [hk]

/-- What attaching a fresh entity changes. -/
theorem attach_reassigned (ht : t.Invariant) (hf : t.Fresh h) (ha : t.Admits owner h) :
    t.Reassigned (t.attach h owner).1 h owner := by
  cases hold : t.index.find? (t.entity h).key with
  | none => exact attach_new ht hf ha hold
  | some old => exact attach_known ht hf ha hold

end Attach

/-! ## §6 What a run preserves -/

namespace Reassigned

variable {t t' : Tree} {h : Handle} {owner : Option Handle}

/-- A class of the index stays one unless its key is taken. -/
theorem isIndexedClass (hr : t.Reassigned t' h owner) (ht : t.Invariant) {o : Handle}
    (ho : t.IsIndexedClass o) (hne : (t.entity o).key ≠ (t.entity h).key) :
    t'.IsIndexedClass o := by
  refine ⟨(t.entity o).key, ?_, ?_⟩
  · rw [hr.index, if_neg hne]
    exact ht.find?_key ho
  · rw [hr.isClass]
    exact ho.choose_spec.2

/-- The containers after an attachment are those that stayed, and the heir. -/
theorem container_cases (hr : t.Reassigned t' h owner) (ht : t.Invariant) {c : Option Handle}
    (hc : t'.IsContainer c) : t.Survives (t.entity h).key c ∨ c = t.heir h := by
  cases c with
  | none => exact Or.inl fun _ ho => by simp at ho
  | some o =>
    obtain ⟨k, hk, hclass⟩ := hc o rfl
    rw [hr.index] at hk
    rw [hr.isClass] at hclass
    by_cases hkey : k = (t.entity h).key
    · rw [if_pos hkey] at hk
      obtain rfl : h = o := Option.some.inj hk
      exact Or.inr (by simp [heir, hclass])
    · -- a class under another key was there before and keeps its own key
      rw [if_neg hkey] at hk
      refine Or.inl fun o' ho' => ?_
      obtain rfl : o = o' := Option.some.inj ho'
      exact ⟨⟨k, hk, hclass⟩, fun h' => hkey ((ht.stored k o hk).2.symm.trans h')⟩

/-- An owner entry after an attachment names a class of the index. -/
theorem owner_indexed (hr : t.Reassigned t' h owner) (ht : t.Invariant) (ha : t.Admits owner h)
    {k : Bytes} {o : Handle} (ho : t'.owners.find? k = some (some o)) :
    t'.IsIndexedClass o ∧ (t'.entity o).key ≠ k := by
  rw [hr.key]
  rw [hr.owners] at ho
  by_cases hk : k = (t.entity h).key
  · rw [if_pos hk] at ho
    obtain ⟨hclass, hne⟩ := ha.survives ht o (Option.some.inj ho)
    exact ⟨hr.isIndexedClass ht hclass hne, fun h' => hne (h'.trans hk)⟩
  · rw [if_neg hk] at ho
    obtain ⟨c, hc, hmoved⟩ := Option.map_eq_some_iff.1 ho
    unfold moved at hmoved
    split at hmoved
    · -- the entry named a displaced class, whose heir is the new one
      unfold heir at hmoved
      split at hmoved
      · next hclass =>
        obtain rfl : h = o := Option.some.inj hmoved
        refine ⟨⟨(t.entity h).key, ?_, ?_⟩, fun h' => hk h'.symm⟩
        · rw [hr.index, if_pos rfl]
        · rw [hr.isClass]
          exact hclass
      · simp at hmoved
    · -- the entry did not move, and its class kept its key
      next hnot =>
      subst hmoved
      obtain ⟨hclass, hne⟩ := ht.owner_indexed k o hc
      refine ⟨hr.isIndexedClass ht hclass fun h' => hnot ⟨rfl, ?_⟩, hne⟩
      exact (h' ▸ ht.find?_key hclass : t.lookup? (t.entity h).key = some o).symm

/-- Attaching a fresh entity preserves the invariant. -/
theorem invariant (hr : t.Reassigned t' h owner) (ht : t.Invariant) (hf : t.Fresh h)
    (ha : t.Admits owner h) : t'.Invariant where
  order_nodup := by
    rw [hr.order]
    split
    · exact ht.order_nodup
    · next hnew =>
      have hnot : (t.entity h).key ∉ t.order := fun hmem => hnew ((ht.mem_order_iff _).1 hmem)
      simpa only [List.concat_eq_append] using ht.order_nodup.concat hnot
  index_keys := hr.index_keys
  stored k x hx := by
    rw [hr.index] at hx
    rw [hr.size, hr.key]
    split at hx
    · next hk =>
      obtain rfl : h = x := Option.some.inj hx
      exact ⟨hf.1, hk.symm⟩
    · exact ht.stored k x hx
  class_iff k c := by
    rw [hr.classes, hr.index, hr.isClass]
    split
    · -- the key names a class exactly when its new entity is one
      cases hclass : (t.entity h).isClass with
      | true =>
        simp only [heir, hclass, if_true, Option.some.injEq]
        exact ⟨fun h' => ⟨h', h' ▸ hclass⟩, And.left⟩
      | false =>
        simp only [heir, hclass]
        refine ⟨fun h' => by simp at h', fun h' => ?_⟩
        rw [← Option.some.inj h'.1, hclass] at h'
        exact absurd h'.2 Bool.false_ne_true
    · exact ht.class_iff k c
  owned_iff k := by
    rw [hr.owners, hr.index]
    split
    · simp
    · simpa using ht.owned_iff k
  owner_indexed k o ho := hr.owner_indexed ht ha ho
  placed c hc := hr.placed c (hr.container_cases ht hc)

end Reassigned

namespace Invariant

variable {t : Tree}

theorem empty : Tree.empty.Invariant where
  order_nodup := List.nodup_nil
  index_keys := rfl
  stored k h hk := by simp [Tree.empty] at hk
  class_iff k c := by simp [Tree.empty]
  owned_iff k := by simp [Tree.empty]
  owner_indexed k o ho := by simp [Tree.empty] at ho
  placed c hc := by
    cases c with
    | none => exact ⟨List.nodup_nil, fun x => by simp [Tree.empty, container]⟩
    | some o =>
      obtain ⟨k, hk, -⟩ := hc o rfl
      simp [Tree.empty] at hk

/-- The invariant looks at the tables, the top level and, behind each handle that the index or a
    container holds, the key and the members.  A tree that agrees on these has it too. -/
theorem congr (ht : t.Invariant) {t' : Tree} (hindex : t'.index = t.index)
    (horder : t'.order = t.order) (howners : t'.owners = t.owners)
    (hclasses : t'.classes = t.classes) (hroot : t'.root = t.root)
    (hsize : t.store.size ≤ t'.store.size)
    (hentity : ∀ x < t.store.size, (t'.entity x).key = (t.entity x).key ∧
      (t'.entity x).isClass = (t.entity x).isClass ∧ (t'.entity x).members = (t.entity x).members) :
    t'.Invariant := by
  have hclass : ∀ o, t'.IsIndexedClass o ↔ t.IsIndexedClass o := by
    intro o
    unfold IsIndexedClass
    rw [hindex]
    refine exists_congr fun k => and_congr_right fun hk => ?_
    rw [(hentity o (ht.stored k o hk).1).2.1]
  have hcontainer : ∀ c, t'.IsContainer c → t'.container c = t.container c := by
    intro c hc
    cases c with
    | none => exact hroot
    | some o =>
      obtain ⟨k, hk, -⟩ := (hclass o).1 (hc o rfl)
      exact (hentity o (ht.stored k o hk).1).2.2
  refine
    { order_nodup := horder ▸ ht.order_nodup
      index_keys := by rw [hindex, horder, ht.index_keys]
      stored := fun k h hk => ?_
      class_iff := fun k c => ?_
      owned_iff := fun k => by rw [howners, hindex, ht.owned_iff]
      owner_indexed := fun k o ho => ?_
      placed := fun c hc => ?_ }
  · obtain ⟨hlt, hkey⟩ := ht.stored k h (hindex ▸ hk)
    exact ⟨Nat.lt_of_lt_of_le hlt hsize, (hentity h hlt).1.trans hkey⟩
  · rw [hclasses, hindex, ht.class_iff]
    refine and_congr_right fun hk => ?_
    rw [(hentity c (ht.stored k c hk).1).2.1]
  · rw [howners] at ho
    obtain ⟨⟨k', hk', hclass'⟩, hne⟩ := ht.owner_indexed k o ho
    rw [(hentity o (ht.stored k' o hk').1).1]
    exact ⟨(hclass o).2 ⟨k', hk', hclass'⟩, hne⟩
  · have hp := ht.placed c fun o ho => (hclass o).1 (hc o ho)
    refine ⟨hcontainer c hc ▸ hp.nodup, ?_⟩
    intro x
    rw [hcontainer c hc, hp.mem_iff, hindex, howners]
    by_cases hx : x < t.store.size
    · rw [(hentity x hx).1]
    · -- a handle beyond the store is in no table under any key
      have hnone : ∀ k, t.index.find? k ≠ some x := fun k hk => hx (ht.stored k x hk).1
      simp [hnone]

theorem create (ht : t.Invariant) (e : Entity) : (t.create e).1.Invariant := by
  refine ht.congr rfl rfl rfl rfl rfl (by simp [Tree.create]) ?_
  intro x hx
  rw [t.entity_create_of_ne e (Nat.ne_of_lt hx)]
  exact ⟨rfl, rfl, rfl⟩

theorem revise (ht : t.Invariant) (h : Handle) {f : Entity → Entity} (hf : KeepsPlace f) :
    (t.modify h f).Invariant := by
  refine ht.congr rfl rfl rfl rfl rfl (by simp) ?_
  intro x _
  rw [entity_modify]
  split
  · exact ⟨hf.key _, hf.isClass _, hf.members _⟩
  · exact ⟨rfl, rfl, rfl⟩

theorem name (ht : t.Invariant) (product : Bytes) : ({ t with product } : Tree).Invariant :=
  ht.congr rfl rfl rfl rfl rfl (Nat.le_refl _) fun _ _ => ⟨rfl, rfl, rfl⟩

end Invariant

/-- Every reached tree has the invariant. -/
theorem Reached.invariant {t : Tree} (ht : t.Reached) : t.Invariant := by
  induction ht with
  | empty => exact Invariant.empty
  | create e _ ih => exact ih.create e
  | attach h owner _ hf ha ih => exact (attach_reassigned ih hf ha).invariant ih hf ha
  | revise h _ hf ih => exact ih.revise h hf
  | name product _ ih => exact ih.name product

/-! ## §7 The entities of the index -/

section Entities

variable {t : Tree}

theorem Invariant.mem_entities_iff (ht : t.Invariant) (h : Handle) :
    h ∈ t.entities ↔ t.index.find? (t.entity h).key = some h := by
  unfold entities lookup?
  rw [List.mem_filterMap]
  constructor
  · rintro ⟨k, -, hk⟩
    rw [(ht.stored k h hk).2]
    exact hk
  · intro hk
    exact ⟨_, (ht.mem_order_iff _).2 (by simp [hk]), hk⟩

theorem Invariant.entities_nodup (ht : t.Invariant) : t.entities.Nodup := by
  refine List.Nodup.filterMap ?_ ht.order_nodup
  -- two keys of one entity would both be its own key
  intro k k' h hk hk'
  exact ((ht.stored k h hk).2).symm.trans (ht.stored k' h hk').2

theorem Invariant.entities_map_key (ht : t.Invariant) :
    (t.entities.map fun h => (t.entity h).key) = t.order := by
  unfold entities lookup?
  rw [List.map_filterMap]
  refine (List.filterMap_congr fun k hk => ?_).trans List.filterMap_some
  obtain ⟨h, hh⟩ := Option.isSome_iff_exists.1 ((ht.mem_order_iff k).1 hk)
  simp [hh, (ht.stored k h hh).2]

/-- What the top level holds: the indexed entities without an owner. -/
theorem Invariant.mem_root_iff (ht : t.Invariant) (h : Handle) :
    h ∈ t.root ↔ t.index.find? (t.entity h).key = some h ∧
      t.owners.find? (t.entity h).key = some none :=
  (ht.placed none t.isContainer_none).mem_iff h

/-- The owner view of an indexed entity is its owner entry. -/
theorem Invariant.owner?_eq_iff (ht : t.Invariant) {k : Bytes} {h : Handle}
    (hk : t.index.find? k = some h) (o : Option Handle) :
    t.owner? k = o ↔ t.owners.find? k = some o := by
  obtain ⟨c, hc⟩ := Option.isSome_iff_exists.1 ((ht.owned_iff k).2 (by simp [hk]))
  simp [owner?, hc]

end Entities

/-! ## §8 Growing by one entity -/

/-- Makes an entity and attaches it. -/
def grow (t : Tree) (e : Entity) (owner : Option Handle) : Tree :=
  ((t.create e).1.attach t.store.size owner).1

/-- Owners that a new entity with the given key can have. -/
def AdmitsKey (t : Tree) (owner : Option Handle) (key : Bytes) : Prop :=
  ∀ o ∈ owner, t.class? (t.entity o).key = some o ∧ (t.entity o).key ≠ key

instance (t : Tree) (owner : Option Handle) (key : Bytes) : Decidable (t.AdmitsKey owner key) :=
  inferInstanceAs (Decidable (∀ o ∈ owner, _))

section Grow

variable {t : Tree} {e : Entity} {owner : Option Handle}

@[simp] theorem grow_store_size : (t.grow e owner).store.size = t.store.size + 1 := by
  simp [grow, Tree.create]

theorem grow_bare_of_lt {x : Handle} (hx : x < t.store.size) :
    ((t.grow e owner).entity x).bare = (t.entity x).bare := by
  unfold grow
  rw [attach_bare, t.entity_create_of_ne e (Nat.ne_of_lt hx)]

@[simp] theorem grow_bare_self : ((t.grow e owner).entity t.store.size).bare = e.bare := by
  unfold grow
  rw [attach_bare, entity_create_self]

/-- A new entity without members can be attached. -/
theorem Invariant.fresh_create (ht : t.Invariant) (he : e.members = []) :
    (t.create e).1.Fresh t.store.size := by
  refine ⟨by simp [Tree.create], ?_, by simpa using he⟩
  intro hlookup
  exact Nat.lt_irrefl _ (ht.stored _ _ hlookup).1

theorem Invariant.admits_create (ht : t.Invariant) (ho : t.AdmitsKey owner e.key) :
    (t.create e).1.Admits owner t.store.size := by
  intro o hmem
  obtain ⟨hclass, hne⟩ := ho o hmem
  have hlt : o < t.store.size := (ht.stored _ _ ((ht.class_iff _ _).1 hclass).1).1
  rw [t.entity_create_of_ne e (Nat.ne_of_lt hlt), entity_create_self]
  exact ⟨hclass, hne⟩

/-- What growing by an entity changes, seen from the tree that has just made it. -/
theorem Invariant.grow_reassigned (ht : t.Invariant) (he : e.members = [])
    (ho : t.AdmitsKey owner e.key) :
    (t.create e).1.Reassigned (t.grow e owner) t.store.size owner :=
  attach_reassigned (ht.create e) (ht.fresh_create he) (ht.admits_create ho)

/-- The new entity stands for its key; the other keys stand for what they did. -/
theorem Invariant.grow_index (ht : t.Invariant) (he : e.members = [])
    (ho : t.AdmitsKey owner e.key) (k : Bytes) :
    (t.grow e owner).index.find? k = if k = e.key then some t.store.size else t.index.find? k := by
  rw [(ht.grow_reassigned he ho).index, entity_create_self]
  rfl

theorem Reached.grow (ht : t.Reached) (he : e.members = []) (ho : t.AdmitsKey owner e.key) :
    (t.grow e owner).Reached :=
  (ht.create e).attach _ owner (ht.invariant.fresh_create he) (ht.invariant.admits_create ho)

end Grow

/-- **Consistency**: whatever entities are attached, replaced and moved, the views of the tree
    agree. -/
theorem Reached.views_agree {t : Tree} (ht : t.Reached) : t.Consistent := ht.invariant.consistent

/-- A class with a method, declared again, and then displaced by a method of the same key: the
    method of the class ends at the top level, and the views agree. -/
theorem consistent_after_takeover :
    let a : Entity := ⟨bytes "A", [], bytes "a.js", 1, .classBody []⟩
    let run : Entity := ⟨bytes "A#run", [], bytes "a.js", 2, .methodBody false ⟨bytes "A", [], []⟩⟩
    let other : Entity := ⟨bytes "A", [], bytes "a.js", 4, .methodBody true ⟨[], [], []⟩⟩
    let t := ((((Tree.empty.grow a none).grow run (some 0)).grow a none).grow other none)
    t.Consistent ∧ t.root = [3, 1] ∧ t.order = [bytes "A", bytes "A#run"] :=
  ⟨((((Reached.empty.grow rfl (by decide)).grow rfl (by decide)).grow rfl (by decide)).grow rfl
    (by decide)).views_agree, by decide, by decide⟩

end Tree

end DocPages
