import DocPages.Proofs.Profiles
import Mathlib.Data.List.Perm.Basic
import Mathlib.Data.Set.Basic

/-!
# Independent Scripts

Two scripts are independent when they declare different keys and neither names a class of the other.
Then no line of one reaches an entity of the other: the profiles of the keys that a script declares are
the same as if the script were read alone.  So the order of independent scripts matters only for the
order of the entities, and for the name of the product.

The proof follows one set of keys `E`.  A line within `E` changes no profile outside of `E`, and what
it does to the profiles of `E` depends on these alone.

## Main results

- `Script.Independent`: scripts that declare different keys and name none of each other's classes
- `KeyView.run_untouched`: lines within `E` leave the other profiles alone
- `KeyView.run_agree`: lines within `E` do the same to views that agree on `E`
- `profiles_eq_alone`: the profiles of a script among independent ones
- `independent_scripts_commute`: the trees of all permutations agree on every key
-/

namespace DocPages

/-! ## §1 Lines within a set of keys -/

/-- The class that a line declares. -/
def Line.class? : Line → Option Bytes
  | classLine key => some key
  | _ => none

theorem Line.key?_of_class? {l : Line} {k : Bytes} (h : l.class? = some k) : l.key? = some k := by
  cases l with
  | classLine key => exact h
  | _ => simp [class?] at h

/-- A line that concerns keys of `E` only, when the classes are among `C`: it declares a key of `E`, and
    the class that it names is in `E` if it is a class at all. -/
structure Line.Within (E C : Set Bytes) (l : Line) : Prop where
  key : ∀ k, l.key? = some k → k ∈ E
  named : ∀ d, l.declaration? = some d → d.classKey ∈ C → d.classKey ∈ E
  declared : ∀ k, l.class? = some k → k ∈ C

/-- Profiles in which keys of `E` and other keys are not related, with classes among `C`. -/
structure Profiles.Divided (E C : Set Bytes) (P : Profiles) : Prop where
  owner : ∀ {k p o}, P k = some p → p.owner? = some o → (o ∈ E ↔ k ∈ E)
  member : ∀ {k p m}, P k = some p → m ∈ p.members → (m ∈ E ↔ k ∈ E)
  declared : ∀ {k p}, P k = some p → p.entity.isClass = true → k ∈ C

namespace Profiles

variable {E C : Set Bytes} {P Q : Profiles} {l : Line}

/-- The division is the same seen from the other keys. -/
theorem divided_compl : P.Divided Eᶜ C ↔ P.Divided E C :=
  ⟨fun h => ⟨fun hp ho => not_iff_not.1 (h.owner hp ho), fun hp hm => not_iff_not.1 (h.member hp hm),
      h.declared⟩,
    fun h => ⟨fun hp ho => not_iff_not.2 (h.owner hp ho), fun hp hm => not_iff_not.2 (h.member hp hm),
      h.declared⟩⟩

theorem Divided.hasClass (hP : P.Divided E C) {k : Bytes} (hk : P.hasClass k = true) : k ∈ C := by
  obtain ⟨p, hp, hclass⟩ := (Option.any_eq_true _ _).1 hk
  exact hP.declared hp hclass

/-- The class that a line finds for itself is one of `E`. -/
theorem Divided.ownerFor_mem (hP : P.Divided E C) (hl : l.Within E C) {o : Bytes}
    (ho : P.ownerFor l = some o) : o ∈ E := by
  obtain ⟨d, hd, hfound⟩ := Option.bind_eq_some_iff.1 ho
  split at hfound
  · next hclass =>
    rw [← Option.some.inj hfound]
    exact hl.named d hd (hP.hasClass hclass)
  · simp at hfound

/-- The constructor that a line is another form of is one of `E`. -/
theorem Divided.mergeTarget_mem (hP : P.Divided E C) (hl : l.Within E C) {m : Bytes}
    (hm : P.mergeTarget l = some m) : m ∈ E := by
  cases l with
  | constructorLine d =>
    obtain ⟨c, hc, hfound⟩ := Option.bind_eq_some_iff.1 hm
    obtain ⟨p, hp, hfind⟩ := Option.bind_eq_some_iff.1 hfound
    exact (hP.member hp (List.mem_of_find?_eq_some hfind)).2 (hP.ownerFor_mem hl hc)
  | _ => simp [mergeTarget] at hm

/-! ## §2 Changes within a set of keys -/

section Put

variable {e : Entity} {owner : Option Bytes}

/-- An entity of `E` put into a class of `E` leaves the profiles outside of `E` alone. -/
theorem Divided.put_eq (hP : P.Divided E C) (he : e.key ∈ E) (ho : ∀ o, owner = some o → o ∈ E)
    {k : Bytes} (hk : k ∉ E) : P.put e owner k = P k := by
  have hne : k ≠ e.key := fun h => hk (h ▸ he)
  unfold put
  rw [if_neg hne]
  cases hp : P k with
  | none => rfl
  | some p =>
    -- `k` neither belongs to the key of the entity nor held it, nor holds it now
    have howner : p.owner? ≠ some e.key := fun h => hk ((hP.owner hp h).1 he)
    have hnew : owner ≠ some k := fun h => hk (ho k h)
    have hold : (P e.key).bind Profile.owner? ≠ some k := by
      intro h
      obtain ⟨q, hq, hqk⟩ := Option.bind_eq_some_iff.1 h
      exact hk ((hP.owner hq hqk).2 he)
    simp [Profile.adjust, howner, hnew, hold]

theorem Divided.put (hP : P.Divided E C) (he : e.key ∈ E) (ho : ∀ o, owner = some o → o ∈ E)
    (hclass : e.isClass = true → e.key ∈ C) : (P.put e owner).Divided E C := by
  -- the profile of any other key: its entity is the same, and what changes is the key of the entity
  have hother : ∀ {k p}, k ≠ e.key → P.put e owner k = some p →
      ∃ q, P k = some q ∧
        p = q.adjust k e.key e.isClass ((P e.key).bind Profile.owner?) owner := by
    intro k p hk hp
    unfold Profiles.put at hp
    rw [if_neg hk] at hp
    obtain ⟨q, hq, rfl⟩ := Option.map_eq_some_iff.1 hp
    exact ⟨q, hq, rfl⟩
  have hself : P.put e owner e.key =
      some ⟨e.bare, owner, if e.isClass then (P e.key).elim [] Profile.members else []⟩ := if_pos rfl
  refine ⟨?_, ?_, ?_⟩
  · intro k p o hp hpo
    by_cases hk : k = e.key
    · rw [hk, hself] at hp
      rw [← Option.some.inj hp] at hpo
      simp [hk, he, ho o hpo]
    · obtain ⟨q, hq, rfl⟩ := hother hk hp
      simp only [Profile.adjust] at hpo
      split at hpo
      · simp at hpo
      · exact hP.owner hq hpo
  · intro k p m hp hm
    by_cases hk : k = e.key
    · rw [hk, hself] at hp
      rw [← Option.some.inj hp] at hm
      dsimp only at hm
      split at hm
      · -- a class inherits the members under its key
        cases hold : P e.key with
        | none => simp [hold] at hm
        | some q =>
          rw [hold] at hm
          rw [hk]
          exact hP.member hold hm
      · simp at hm
    · obtain ⟨q, hq, rfl⟩ := hother hk hp
      simp only [Profile.adjust] at hm
      split at hm
      · exact hP.member hq hm
      split at hm
      · next hnew =>
        rcases List.mem_append.1 hm with hm | hm
        · exact hP.member hq hm
        · rw [List.mem_singleton.1 hm]
          simp [he, ho k hnew]
      split at hm
      · exact hP.member hq (List.mem_of_mem_erase hm)
      · exact hP.member hq hm
  · intro k p hp hpclass
    by_cases hk : k = e.key
    · rw [hk, hself] at hp
      rw [← Option.some.inj hp] at hpclass
      rw [hk]
      exact hclass ((Entity.withMembers_isClass e []).symm.trans hpclass)
    · obtain ⟨q, hq, rfl⟩ := hother hk hp
      exact hP.declared hq hpclass

theorem put_agree (h : ∀ k ∈ E, P k = Q k) (he : e.key ∈ E) {k : Bytes} (hk : k ∈ E) :
    P.put e owner k = Q.put e owner k := by
  unfold put
  rw [h k hk, h e.key he]

end Put

section Revise

variable {target : Option Bytes} {f : Entity → Entity}

theorem revise_eq (ht : ∀ k, target = some k → k ∈ E) {k : Bytes} (hk : k ∉ E) :
    P.revise target f k = P k := if_neg fun h => hk (ht k h)

theorem Divided.revise (hP : P.Divided E C) (hf : Tree.KeepsPlace f) :
    (P.revise target f).Divided E C := by
  have hback : ∀ {k p}, P.revise target f k = some p →
      ∃ q, P k = some q ∧ p.owner? = q.owner? ∧ p.members = q.members ∧
        p.entity.isClass = q.entity.isClass := by
    intro k p hp
    unfold Profiles.revise at hp
    split at hp
    · obtain ⟨q, hq, rfl⟩ := Option.map_eq_some_iff.1 hp
      exact ⟨q, hq, rfl, rfl, hf.isClass _⟩
    · exact ⟨p, hp, rfl, rfl, rfl⟩
  refine ⟨fun hp ho => ?_, fun hp hm => ?_, fun hp hclass => ?_⟩
  · obtain ⟨q, hq, howner, -, -⟩ := hback hp
    exact hP.owner hq (howner ▸ ho)
  · obtain ⟨q, hq, -, hmembers, -⟩ := hback hp
    exact hP.member hq (hmembers ▸ hm)
  · obtain ⟨q, hq, -, -, hentity⟩ := hback hp
    exact hP.declared hq (hentity ▸ hclass)

theorem revise_agree (h : ∀ k ∈ E, P k = Q k) {k : Bytes} (hk : k ∈ E) :
    P.revise target f k = Q.revise target f k := by
  unfold revise
  rw [h k hk]

end Revise

/-- Profiles that agree on `E` give a line the same class. -/
theorem Divided.ownerFor_agree (hP : P.Divided E C) (hQ : Q.Divided E C)
    (h : ∀ k ∈ E, P k = Q k) (hl : l.Within E C) : P.ownerFor l = Q.ownerFor l := by
  unfold ownerFor
  cases hd : l.declaration? with
  | none => rfl
  | some d =>
    have hclass : P.hasClass d.classKey = Q.hasClass d.classKey := by
      by_cases hmem : d.classKey ∈ E
      · unfold Profiles.hasClass
        rw [h _ hmem]
      · -- what is named and not in `E` is no class in either
        have hP' : P.hasClass d.classKey ≠ true := fun h' => hmem (hl.named d hd (hP.hasClass h'))
        have hQ' : Q.hasClass d.classKey ≠ true := fun h' => hmem (hl.named d hd (hQ.hasClass h'))
        rw [Bool.eq_false_iff.2 hP', Bool.eq_false_iff.2 hQ']
    simp only [Option.bind_some, hclass]

/-- Profiles that agree on `E` give a line the same constructor. -/
theorem Divided.mergeTarget_agree (hP : P.Divided E C) (hQ : Q.Divided E C)
    (h : ∀ k ∈ E, P k = Q k) (hl : l.Within E C) : P.mergeTarget l = Q.mergeTarget l := by
  cases l with
  | constructorLine d =>
    simp only [mergeTarget, hP.ownerFor_agree hQ h hl]
    cases ho : Q.ownerFor (.constructorLine d) with
    | none => rfl
    | some c =>
      have hc := hQ.ownerFor_mem hl ho
      rw [Option.bind_some, Option.bind_some, h c hc]
      cases hp : Q c with
      | none => rfl
      | some p =>
        refine List.find?_congr fun m hm => ?_
        rw [h m ((hQ.member hp hm).2 hc)]
  | _ => rfl

end Profiles

/-! ## §3 Runs within a set of keys -/

/-- An event that concerns keys of `E` only. -/
def Event.Within (E C : Set Bytes) : Event → Prop
  | .line _ _ text => ∀ l, Line.classify text = .ok l → l.Within E C
  | _ => True

namespace KeyView

variable {E C : Set Bytes} {v u : KeyView} {l : Line} {source : Bytes} {number : Nat}

/-- A view in which `E` is apart from the other keys, and no other key is open. -/
structure Ready (E C : Set Bytes) (v : KeyView) : Prop where
  divided : v.profiles.Divided E C
  current : ∀ k, v.current = some k → k ∈ E

/-- Views that agree on `E` and on the open key. -/
structure Agree (E : Set Bytes) (v u : KeyView) : Prop where
  profiles : ∀ k ∈ E, v.profiles k = u.profiles k
  current : v.current = u.current

theorem class?_of_newEntity {owner : Option Bytes} {key : Bytes} (hkey : l.key? = some key)
    (h : (l.newEntity owner source number key).isClass = true) : l.class? = some key := by
  cases l with
  | classLine k => exact hkey
  | prose text => simp [Line.key?, Line.declaration?] at hkey
  | noteLine n => simp [Line.key?, Line.declaration?] at hkey
  | _ => simp [Line.newEntity, Entity.isClass] at h

theorem step_ready (hv : v.Ready E C) (hl : l.Within E C) : (v.step l source number).Ready E C := by
  unfold step
  split
  · exact ⟨hv.divided.revise l.revise_keepsPlace, hv.current⟩
  · next m hkey hm =>
    refine ⟨hv.divided.revise l.revise_keepsPlace, fun k hk => ?_⟩
    rw [← Option.some.inj hk]
    exact hv.divided.mergeTarget_mem hl hm
  · next key hkey hm =>
    refine ⟨hv.divided.put (hl.key key hkey) (fun o ho => hv.divided.ownerFor_mem hl ho) ?_, ?_⟩
    · intro hclass
      exact hl.declared key (class?_of_newEntity hkey hclass)
    · intro k hk
      exact hl.key k (hkey.trans hk)

/-- A line within `E` leaves the other profiles alone. -/
theorem step_untouched (hv : v.Ready E C) (hl : l.Within E C) {k : Bytes} (hk : k ∉ E) :
    (v.step l source number).profiles k = v.profiles k := by
  unfold step
  split
  · exact Profiles.revise_eq hv.current hk
  · next m hkey hm =>
    refine Profiles.revise_eq (fun k' hk' => ?_) hk
    rw [← Option.some.inj hk']
    exact hv.divided.mergeTarget_mem hl hm
  · next key hkey hm =>
    exact hv.divided.put_eq (hl.key key hkey) (fun o ho => hv.divided.ownerFor_mem hl ho) hk

/-- A line within `E` does the same to views that agree on `E`. -/
theorem step_agree (hv : v.Ready E C) (hu : u.Ready E C) (h : v.Agree E u) (hl : l.Within E C) :
    (v.step l source number).Agree E (u.step l source number) := by
  have hmerge := hv.divided.mergeTarget_agree hu.divided h.profiles hl
  have howner := hv.divided.ownerFor_agree hu.divided h.profiles hl
  unfold step
  rw [hmerge, howner]
  split
  · refine ⟨fun k hk => ?_, h.current⟩
    rw [h.current]
    exact Profiles.revise_agree h.profiles hk
  · exact ⟨fun k hk => Profiles.revise_agree h.profiles hk, rfl⟩
  · next key hkey hm =>
    exact ⟨fun k hk => Profiles.put_agree h.profiles (hl.key key hkey) hk, rfl⟩

theorem apply_ready (hv : v.Ready E C) {e : Event} (he : e.Within E C) : (v.apply e).Ready E C := by
  cases e with
  | beginScript text => exact hv
  | line source number text =>
    simp only [apply]
    split
    · next l hl => exact step_ready hv (he l hl)
    · exact hv
  | _ => exact ⟨hv.divided, by simp [apply]⟩

theorem apply_untouched (hv : v.Ready E C) {e : Event} (he : e.Within E C) {k : Bytes}
    (hk : k ∉ E) : (v.apply e).profiles k = v.profiles k := by
  cases e with
  | line source number text =>
    simp only [apply]
    split
    · next l hl => exact step_untouched hv (he l hl) hk
    · rfl
  | _ => rfl

theorem apply_agree (hv : v.Ready E C) (hu : u.Ready E C) (h : v.Agree E u) {e : Event}
    (he : e.Within E C) : (v.apply e).Agree E (u.apply e) := by
  cases e with
  | beginScript text => exact h
  | line source number text =>
    simp only [apply]
    cases hl : Line.classify text with
    | ok l => exact step_agree hv hu h (he l hl)
    | error cause => exact h
  | _ => exact ⟨h.profiles, rfl⟩

variable {es : List Event}

theorem run_ready (hv : v.Ready E C) (hes : ∀ e ∈ es, e.Within E C) : (v.run es).Ready E C := by
  induction es generalizing v with
  | nil => exact hv
  | cons e es ih =>
    obtain ⟨he, hes⟩ := List.forall_mem_cons.1 hes
    exact ih (apply_ready hv he) hes

/-- Events within `E` leave the other profiles alone. -/
theorem run_untouched (hv : v.Ready E C) (hes : ∀ e ∈ es, e.Within E C) {k : Bytes} (hk : k ∉ E) :
    (v.run es).profiles k = v.profiles k := by
  induction es generalizing v with
  | nil => rfl
  | cons e es ih =>
    obtain ⟨he, hes⟩ := List.forall_mem_cons.1 hes
    rw [run_cons, ih (apply_ready hv he) hes, apply_untouched hv he hk]

/-- Events within `E` do the same to views that agree on `E`. -/
theorem run_agree (hv : v.Ready E C) (hu : u.Ready E C) (h : v.Agree E u)
    (hes : ∀ e ∈ es, e.Within E C) : (v.run es).Agree E (u.run es) := by
  induction es generalizing v u with
  | nil => exact h
  | cons e es ih =>
    obtain ⟨he, hes⟩ := List.forall_mem_cons.1 hes
    exact ih (apply_ready hv he) (apply_ready hu he) (apply_agree hv hu h he) hes

end KeyView

/-! ## §4 The keys of a script -/

namespace Script

/-- The readable lines inside the blocks of a script. -/
def lines (s : Script) : List Line :=
  (blockLines s.text).filterMap fun l => (Line.classify l.text).toOption

/-- The keys that a script declares, forms of constructors among them. -/
def keys (s : Script) : List Bytes := s.lines.filterMap Line.key?

/-- The set of the keys that a script declares. -/
def keySet (s : Script) : Set Bytes := {k | k ∈ s.keys}

/-- The classes that a script declares. -/
def classes (s : Script) : List Bytes := s.lines.filterMap Line.class?

/-- The classes that a script names as owners. -/
def named (s : Script) : List Bytes := s.lines.filterMap fun l => l.declaration?.map (·.classKey)

/-- Scripts that declare different keys and name none of each other's classes. -/
structure Independent (a b : Script) : Prop where
  keys : ∀ k ∈ a.keys, k ∉ b.keys
  left : ∀ k ∈ a.named, k ∉ b.classes
  right : ∀ k ∈ b.named, k ∉ a.classes

instance (a b : Script) : Decidable (Independent a b) :=
  decidable_of_iff ((∀ k ∈ a.keys, k ∉ b.keys) ∧ (∀ k ∈ a.named, k ∉ b.classes) ∧
    ∀ k ∈ b.named, k ∉ a.classes)
    ⟨fun h => ⟨h.1, h.2.1, h.2.2⟩, fun h => ⟨h.keys, h.left, h.right⟩⟩

theorem Independent.symm {a b : Script} (h : Independent a b) : Independent b a :=
  ⟨fun k hb ha => h.keys k ha hb, h.right, h.left⟩

theorem mem_keys_of_mem_classes {s : Script} {k : Bytes} (h : k ∈ s.classes) : k ∈ s.keys := by
  obtain ⟨l, hl, hk⟩ := List.mem_filterMap.1 h
  exact List.mem_filterMap.2 ⟨l, hl, Line.key?_of_class? hk⟩

end Script

theorem exists_of_mem_lineEvents {name source text : Bytes} {number : Nat} {ls : List BlockLine}
    (h : Event.line source number text ∈ lineEvents name ls) : ∃ b ∈ ls, b.text = text := by
  induction ls with
  | nil => simp [lineEvents] at h
  | cons b ls ih =>
    have hrest : Event.line source number text ∈ lineEvents name ls → ∃ b' ∈ b :: ls, b'.text = text := by
      intro h'
      obtain ⟨b', hb', htext⟩ := ih h'
      exact ⟨b', List.mem_cons_of_mem _ hb', htext⟩
    unfold lineEvents at h
    rcases List.mem_cons.1 h with heq | h
    · exact ⟨b, List.mem_cons_self, (Event.line.inj heq).2.2.symm⟩
    · cases hclosing : b.closing with
      | true =>
        rw [hclosing, if_pos rfl] at h
        exact hrest (by simpa using h)
      | false =>
        rw [hclosing] at h
        exact hrest (by simpa using h)

/-- A line among the events of a script is one of its lines. -/
theorem mem_lines_of_mem_scriptEvents {s : Script} {source text : Bytes} {number : Nat} {l : Line}
    (h : Event.line source number text ∈ scriptEvents s) (hl : Line.classify text = .ok l) :
    l ∈ s.lines := by
  have hmem : Event.line source number text ∈ lineEvents s.name (blockLines s.text) := by
    simpa [scriptEvents] using h
  obtain ⟨b, hb, rfl⟩ := exists_of_mem_lineEvents hmem
  exact List.mem_filterMap.2 ⟨b, hb, by rw [hl]; rfl⟩

/-- The events of a script are within `E` when its keys are, and the classes that it names if they are
    classes. -/
theorem scriptEvents_within {E C : Set Bytes} {s : Script} (hkeys : ∀ k ∈ s.keys, k ∈ E)
    (hnamed : ∀ k ∈ s.named, k ∈ C → k ∈ E) (hclasses : ∀ k ∈ s.classes, k ∈ C) :
    ∀ e ∈ scriptEvents s, e.Within E C := by
  intro e he
  cases e with
  | line source number text =>
    intro l hl
    have hmem := mem_lines_of_mem_scriptEvents he hl
    refine ⟨fun k hk => ?_, fun d hd => ?_, fun k hk => ?_⟩
    · exact hkeys k (List.mem_filterMap.2 ⟨l, hmem, hk⟩)
    · exact hnamed d.classKey (List.mem_filterMap.2 ⟨l, hmem, by rw [hd]; rfl⟩)
    · exact hclasses k (List.mem_filterMap.2 ⟨l, hmem, hk⟩)
  | _ => trivial

theorem events_within {E C : Set Bytes} {scripts : List Script}
    (h : ∀ s ∈ scripts, ∀ e ∈ scriptEvents s, e.Within E C) : ∀ e ∈ events scripts, e.Within E C := by
  intro e he
  obtain ⟨s, hs, he⟩ := List.mem_flatMap.1 he
  exact h s hs e he

namespace KeyView

/-- At the end of a script nothing is open. -/
theorem run_scriptEvents_current (v : KeyView) (s : Script) :
    (v.run (scriptEvents s)).current = none := by
  simp [scriptEvents, apply]

theorem run_events_current {v : KeyView} (hv : v.current = none) (scripts : List Script) :
    (v.run (events scripts)).current = none := by
  induction scripts generalizing v with
  | nil => exact hv
  | cons s scripts ih =>
    rw [events_cons, run_append]
    exact ih (v.run_scriptEvents_current s)

theorem start_ready (E C : Set Bytes) : start.Ready E C :=
  ⟨⟨by simp [start], by simp [start], by simp [start]⟩, by simp [start]⟩

end KeyView

/-! ## §5 Independent scripts -/

/-- The classes that some scripts declare. -/
def declaredClasses (scripts : List Script) : Set Bytes := {k | ∃ s ∈ scripts, k ∈ s.classes}

section Alone

open KeyView

variable {pre post : List Script} {a : Script}

theorem mem_others {s : Script} (hs : s ∈ pre ++ a :: post) (hsa : s ≠ a) : s ∈ pre ++ post := by
  simp only [List.mem_append, List.mem_cons] at hs ⊢
  tauto

/-- Among independent scripts, the events of a script are within the keys of the script. -/
theorem scriptEvents_within_keys (ha : ∀ b ∈ pre ++ post, a.Independent b) :
    ∀ e ∈ scriptEvents a, e.Within a.keySet (declaredClasses (pre ++ a :: post)) := by
  refine scriptEvents_within (fun k hk => hk) ?_ fun k hk => ⟨a, by simp, hk⟩
  rintro k hnamed ⟨s, hs, hclass⟩
  -- a class that `a` names is declared by `a` or by nobody
  by_cases hsa : s = a
  · exact Script.mem_keys_of_mem_classes (hsa ▸ hclass)
  · exact absurd hclass ((ha s (mem_others hs hsa)).left k hnamed)

/-- The events of the other scripts are within the other keys. -/
theorem scriptEvents_within_compl (ha : ∀ b ∈ pre ++ post, a.Independent b) {b : Script}
    (hb : b ∈ pre ++ post) :
    ∀ e ∈ scriptEvents b, e.Within a.keySetᶜ (declaredClasses (pre ++ a :: post)) := by
  have hab := ha b hb
  refine scriptEvents_within (fun k hk hka => hab.keys k hka hk) ?_ ?_
  · rintro k hnamed ⟨s, hs, hclass⟩ hka
    by_cases hsa : s = a
    · exact hab.right k hnamed (hsa ▸ hclass)
    · -- another script would declare a key of `a`
      exact (ha s (mem_others hs hsa)).keys k hka (Script.mem_keys_of_mem_classes hclass)
  · intro k hk
    refine ⟨b, ?_, hk⟩
    simp only [List.mem_append, List.mem_cons] at hb ⊢
    tauto

/-- The profiles of the keys that a script declares are what the script makes of them alone. -/
theorem profiles_eq_alone (ha : ∀ b ∈ pre ++ post, a.Independent b) {k : Bytes} (hk : k ∈ a.keys) :
    (start.run (events (pre ++ a :: post))).profiles k = (start.run (events [a])).profiles k := by
  have hpre : ∀ e ∈ events pre, e.Within a.keySetᶜ (declaredClasses (pre ++ a :: post)) :=
    events_within fun b hb => scriptEvents_within_compl ha (List.mem_append_left _ hb)
  have hpost : ∀ e ∈ events post, e.Within a.keySetᶜ (declaredClasses (pre ++ a :: post)) :=
    events_within fun b hb => scriptEvents_within_compl ha (List.mem_append_right _ hb)
  have hself := scriptEvents_within_keys ha
  have hstart := start_ready a.keySetᶜ (declaredClasses (pre ++ a :: post))
  -- the scripts before leave the keys of `a` as they were, without profiles
  have hcurrent : (start.run (events pre)).current = none := run_events_current rfl pre
  have hbefore : (start.run (events pre)).Ready a.keySet (declaredClasses (pre ++ a :: post)) :=
    ⟨Profiles.divided_compl.1 (run_ready hstart hpre).divided, by simp [hcurrent]⟩
  have hagree : (start.run (events pre)).Agree a.keySet start :=
    ⟨fun k' hk' => run_untouched hstart hpre (not_not.2 hk'), hcurrent⟩
  -- so `a` does to them what it does alone
  have halone := (run_agree hbefore (start_ready _ _) hagree hself).profiles k hk
  -- and the scripts after leave that alone
  have hafter : ((start.run (events pre)).run (scriptEvents a)).Ready a.keySetᶜ
      (declaredClasses (pre ++ a :: post)) :=
    ⟨Profiles.divided_compl.2 (run_ready hbefore hself).divided,
      by simp [run_scriptEvents_current]⟩
  have hrest := run_untouched hafter hpost (not_not.2 hk : k ∉ a.keySetᶜ)
  have hevents : events (pre ++ a :: post) = events pre ++ (scriptEvents a ++ events post) := by
    simp [events]
  have hevents' : events [a] = scriptEvents a := by simp [events]
  rw [hevents, run_append, run_append, hrest, halone, hevents']

end Alone

/-- A key that no script declares has no profile. -/
theorem profiles_eq_none {scripts : List Script} {k : Bytes} (h : ∀ s ∈ scripts, k ∉ s.keys) :
    (KeyView.start.run (events scripts)).profiles k = none := by
  have hwithin : ∀ e ∈ events scripts, e.Within {k}ᶜ (declaredClasses scripts) := by
    refine events_within fun s hs => scriptEvents_within ?_ ?_ fun k' hk' => ⟨s, hs, hk'⟩
    · rintro k' hk' rfl
      exact h s hs hk'
    · rintro k' - ⟨s', hs', hclass⟩ rfl
      exact h s' hs' (Script.mem_keys_of_mem_classes hclass)
  exact KeyView.run_untouched (KeyView.start_ready _ _) hwithin (by simp)

/-- The profiles of independent scripts do not depend on their order. -/
theorem profiles_eq_of_perm {scripts scripts' : List Script}
    (hindependent : scripts.Pairwise Script.Independent) (hperm : scripts.Perm scripts') (k : Bytes) :
    (KeyView.start.run (events scripts)).profiles k =
      (KeyView.start.run (events scripts')).profiles k := by
  -- each list gives a declared key the profile that its script gives it alone
  have halone : ∀ {ss : List Script}, ss.Pairwise Script.Independent → ∀ a ∈ ss, k ∈ a.keys →
      (KeyView.start.run (events ss)).profiles k =
        (KeyView.start.run (events [a])).profiles k := by
    intro ss hss a ha hk
    obtain ⟨pre, post, rfl⟩ := List.append_of_mem ha
    obtain ⟨-, hcons, hcross⟩ := List.pairwise_append.1 hss
    refine profiles_eq_alone (fun b hb => ?_) hk
    rcases List.mem_append.1 hb with hb | hb
    · exact (hcross b hb a List.mem_cons_self).symm
    · exact (List.pairwise_cons.1 hcons).1 b hb
  by_cases hdeclared : ∃ a ∈ scripts, k ∈ a.keys
  · obtain ⟨a, ha, hk⟩ := hdeclared
    have hindependent' : scripts'.Pairwise Script.Independent :=
      (hperm.pairwise_iff fun h => h.symm).1 hindependent
    rw [halone hindependent a ha hk, halone hindependent' a (hperm.mem_iff.1 ha) hk]
  · have hnot : ∀ s ∈ scripts, k ∉ s.keys := fun s hs hk => hdeclared ⟨s, hs, hk⟩
    rw [profiles_eq_none hnot, profiles_eq_none fun s hs => hnot s (hperm.mem_iff.2 hs)]

/-! ## §6 The trees of independent scripts -/

namespace Tree

variable {t t' : Tree}

/-- Trees with the same profiles list the same keys. -/
theorem order_perm (ht : t.Invariant) (ht' : t'.Invariant) (h : t.profile? = t'.profile?) :
    t.order.Perm t'.order := by
  rw [List.perm_ext_iff_of_nodup ht.order_nodup ht'.order_nodup]
  intro k
  have hsome : ∀ u : Tree, (u.index.find? k).isSome = (u.profile? k).isSome := by
    intro u
    simp [profile?, lookup?]
  rw [ht.mem_order_iff, ht'.mem_order_iff, hsome, hsome, h]

/-- The keys of the top level. -/
def rootKeys (t : Tree) : List Bytes := t.root.map fun h => (t.entity h).key

theorem mem_rootKeys_iff (ht : t.Invariant) (k : Bytes) :
    k ∈ t.rootKeys ↔ ∃ p, t.profile? k = some p ∧ p.owner? = none := by
  unfold rootKeys
  rw [List.mem_map]
  constructor
  · rintro ⟨h, hh, rfl⟩
    obtain ⟨hindex, howner⟩ := (ht.mem_root_iff h).1 hh
    exact ⟨_, profile?_of_find? hindex, by simp [ownerKey?, owner?, howner]⟩
  · rintro ⟨p, hp, howner⟩
    obtain ⟨h, hh, rfl⟩ := Option.map_eq_some_iff.1 hp
    have hkey := (ht.stored k h hh).2
    refine ⟨h, (ht.mem_root_iff h).2 ⟨hkey.symm ▸ hh, ?_⟩, hkey⟩
    rw [hkey]
    exact (ht.owner?_eq_iff hh none).1 (ownerKey?_eq_none_iff.1 howner)

theorem rootKeys_nodup (ht : t.Invariant) : t.rootKeys.Nodup := by
  refine (List.nodup_map_iff_inj_on (ht.placed none t.isContainer_none).nodup).2 ?_
  intro x hx y hy hkey
  have hx' := ((ht.mem_root_iff x).1 hx).1
  rw [hkey, ((ht.mem_root_iff y).1 hy).1] at hx'
  exact (Option.some.inj hx').symm

/-- Trees with the same profiles have the same keys at the top level. -/
theorem rootKeys_perm (ht : t.Invariant) (ht' : t'.Invariant) (h : t.profile? = t'.profile?) :
    t.rootKeys.Perm t'.rootKeys := by
  rw [List.perm_ext_iff_of_nodup (rootKeys_nodup ht) (rootKeys_nodup ht')]
  intro k
  rw [mem_rootKeys_iff ht, mem_rootKeys_iff ht', h]

end Tree

/-- The profiles of an accepted list of scripts. -/
theorem profile?_of_parseScripts {scripts : List Script} {t : Tree}
    (h : (parseScripts scripts).1 = .ok t) :
    t.profile? = (KeyView.start.run (events scripts)).profiles := by
  have hview := Session.run_keyView Session.start_nested Session.start_focused (events scripts)
  rw [Session.start_keyView] at hview
  rw [(parseScripts_eq_ok h).1, ← hview]
  rfl

theorem readable_of_accepted {scripts : List Script}
    (h : ∀ s ∈ scripts, ∃ t, (parseScripts [s]).1 = .ok t) : ∀ e ∈ events scripts, e.Readable := by
  intro e he
  obtain ⟨s, hs, he⟩ := List.mem_flatMap.1 he
  obtain ⟨t, ht⟩ := h s hs
  exact (parseScripts_eq_ok ht).2 e (by simpa [events] using he)

/-- **Independent scripts commute**: scripts that are accepted one by one, declare different keys and
    name none of each other's classes are accepted in every order, and every order gives each key the
    same entity, the same owner and the same members in the same order.  The orders of the keys and
    of the top level may differ, but list the same keys. -/
theorem independent_scripts_commute {scripts scripts' : List Script}
    (haccepted : ∀ s ∈ scripts, ∃ t, (parseScripts [s]).1 = .ok t)
    (hindependent : scripts.Pairwise Script.Independent) (hperm : scripts.Perm scripts') :
    ∃ t t', (parseScripts scripts).1 = .ok t ∧ (parseScripts scripts').1 = .ok t' ∧
      (∀ k, t.profile? k = t'.profile? k) ∧ t.order.Perm t'.order ∧
      t.rootKeys.Perm t'.rootKeys := by
  obtain ⟨t, ht⟩ := exists_tree_of_readable (readable_of_accepted haccepted)
  obtain ⟨t', ht'⟩ := exists_tree_of_readable
    (readable_of_accepted fun s hs => haccepted s (hperm.mem_iff.2 hs))
  have hprofiles : t.profile? = t'.profile? := by
    funext k
    rw [profile?_of_parseScripts ht, profile?_of_parseScripts ht']
    exact profiles_eq_of_perm hindependent hperm k
  have hinv := (parseScripts_nested ht).invariant
  have hinv' := (parseScripts_nested ht').invariant
  exact ⟨t, t', ht, ht', fun k => congrFun hprofiles k, Tree.order_perm hinv hinv' hprofiles,
    Tree.rootKeys_perm hinv hinv' hprofiles⟩

/-- A class that is declared again and gets a second form of its constructor, next to a script that
    declares a method before its class: the order of the keys depends on the order of the scripts, the
    members of the class do not. -/
theorem scripts_commute_with_redeclared_class :
    let a : Script := ⟨bytes "a.js",
      bytes "/*?\nclass Foo\nFoo#run() -> X\nclass Foo\nnew Foo(n)\ncreateFoo()\nText\n**/"⟩
    let b : Script := ⟨bytes "b.js", bytes "/*?\nBar#go() -> Foo\nclass Bar\nBar.sum(x) -> Y\n**/"⟩
    (∀ s ∈ [a, b], ∃ t, (parseScripts [s]).1 = .ok t) ∧ [a, b].Pairwise Script.Independent ∧
      ∃ t t', (parseScripts [a, b]).1 = .ok t ∧ (parseScripts [b, a]).1 = .ok t' ∧
        (∀ k, t.profile? k = t'.profile? k) ∧ t.order.Perm t'.order ∧
        t.rootKeys.Perm t'.rootKeys ∧
        t.order = [bytes "Foo", bytes "Foo#run", bytes "new Foo", bytes "Bar#go", bytes "Bar",
          bytes "Bar.sum"] ∧
        t'.order = [bytes "Bar#go", bytes "Bar", bytes "Bar.sum", bytes "Foo", bytes "Foo#run",
          bytes "new Foo"] ∧
        (t'.profile? (bytes "Foo")).map Profile.members =
          some [bytes "Foo#run", bytes "new Foo"] := by
  intro a b
  have haccepted : ∀ s ∈ [a, b], ∃ t, (parseScripts [s]).1 = .ok t := by
    have ha : (parseScripts [a]).1.toOption.map Tree.size = some 3 := by decide
    have hb : (parseScripts [b]).1.toOption.map Tree.size = some 3 := by decide
    intro s hs
    rcases List.mem_pair.1 hs with rfl | rfl
    · obtain ⟨t, ht, -⟩ := exists_tree_of_view ha
      exact ⟨t, ht⟩
    · obtain ⟨t, ht, -⟩ := exists_tree_of_view hb
      exact ⟨t, ht⟩
  have hindependent : [a, b].Pairwise Script.Independent := by decide
  have hview : (parseScripts [a, b]).1.toOption.map Tree.order =
      some [bytes "Foo", bytes "Foo#run", bytes "new Foo", bytes "Bar#go", bytes "Bar",
        bytes "Bar.sum"] := by decide
  have hview' : (parseScripts [b, a]).1.toOption.map
      (fun t => (t.order, (t.profile? (bytes "Foo")).map Profile.members)) =
      some ([bytes "Bar#go", bytes "Bar", bytes "Bar.sum", bytes "Foo", bytes "Foo#run",
        bytes "new Foo"], some [bytes "Foo#run", bytes "new Foo"]) := by decide
  obtain ⟨t, t', ht, ht', hprofiles, horder, hroot⟩ :=
    independent_scripts_commute haccepted hindependent (List.Perm.swap b a [])
  rw [ht, Except.toOption, Option.map_some] at hview
  rw [ht', Except.toOption, Option.map_some] at hview'
  obtain ⟨horder', hmembers⟩ := Prod.mk.inj (Option.some.inj hview')
  exact ⟨haccepted, hindependent, t, t', ht, ht', hprofiles, horder, hroot, Option.some.inj hview,
    horder', hmembers⟩

end DocPages
