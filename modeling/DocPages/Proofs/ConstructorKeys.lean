import Mathlib.Data.List.Basic
import DocPages.Declaration.Line
import DocPages.Proofs.ByteText

/-!
# Class Keys and Constructor Keys

A class key is a name space of letters and dots and a capitalised name.  A constructor key is such a key
behind `new`, or a factory key: the key of the class with `create` in front of its last name.  A factory
key may hold several `create`s and several capitals, so it has to be said which `create` is taken out:
the last one that is followed by a capitalised name and nothing else.  What is left is a class key
again.

## Main results

- `isClassKey_iff`: the grammar of class keys
- `FactoryForm`, `cutFactory?_eq_some_iff`: where a factory key is cut
- `ConstructorKey`, `constructedClass?_eq_some_iff`: the two forms of a constructor key
- `ConstructorKey.isClassKey`: the class of a constructor has a class key
-/

namespace DocPages

/-! ## §1 Class keys -/

theorem isLetter_of_mem_capitalised {name : Bytes} (h : isCapitalised name = true) {b : UInt8}
    (hb : b ∈ name) : Bytes.isLetter b = true := by
  cases name with
  | nil => simp at hb
  | cons c rest =>
    simp only [isCapitalised, Bool.and_eq_true, List.all_eq_true] at h
    rcases List.mem_cons.1 hb with rfl | hb
    · simp [Bytes.isLetter, h.1.1]
    · exact h.2 b hb

theorem isKeyByte_of_mem_capitalised {name : Bytes} (h : isCapitalised name = true) {b : UInt8}
    (hb : b ∈ name) : isKeyByte b = true := by
  simp [isKeyByte, isLetter_of_mem_capitalised h hb]

theorem endsCapitalised_iff {key : Bytes} :
    endsCapitalised key = true ↔ ∃ space name, key = space ++ name ∧ isCapitalised name = true := by
  induction key with
  | nil =>
    refine iff_of_false (by simp [endsCapitalised]) ?_
    rintro ⟨space, name, hkey, hname⟩
    obtain ⟨-, rfl⟩ := List.append_eq_nil_iff.1 hkey.symm
    simp [isCapitalised] at hname
  | cons c rest ih =>
    rw [endsCapitalised, Bool.or_eq_true, ih]
    constructor
    · rintro (hname | ⟨space, name, rfl, hname⟩)
      · exact ⟨[], c :: rest, rfl, hname⟩
      · exact ⟨c :: space, name, rfl, hname⟩
    · rintro ⟨space, name, hkey, hname⟩
      cases space with
      | nil => exact Or.inl (hkey ▸ hname)
      | cons d space => exact Or.inr ⟨space, name, (List.cons.inj hkey).2, hname⟩

/-- A class key is a name space of letters and dots, which may be empty, and a capitalised name. -/
theorem isClassKey_iff {key : Bytes} :
    isClassKey key = true ↔
      ∃ space name, key = space ++ name ∧ (∀ b ∈ space, isKeyByte b = true) ∧
        isCapitalised name = true := by
  rw [isClassKey, Bool.and_eq_true, List.all_eq_true, endsCapitalised_iff]
  constructor
  · rintro ⟨hbytes, space, name, rfl, hname⟩
    exact ⟨space, name, rfl, fun b hb => hbytes b (List.mem_append_left _ hb), hname⟩
  · rintro ⟨space, name, rfl, hspace, hname⟩
    refine ⟨fun b hb => ?_, space, name, rfl, hname⟩
    rcases List.mem_append.1 hb with hb | hb
    · exact hspace b hb
    · exact isKeyByte_of_mem_capitalised hname hb

theorem isKeyByte_of_mem_classKey {key : Bytes} (h : isClassKey key = true) {b : UInt8} (hb : b ∈ key) :
    isKeyByte b = true := by
  rw [isClassKey, Bool.and_eq_true, List.all_eq_true] at h
  exact h.1 b hb

/-! ## §2 Factory keys -/

/-- A factory key, cut around its last `create` that a capitalised name follows up to the end. -/
structure FactoryForm (key before name : Bytes) : Prop where
  key_eq : key = before ++ bytes "create" ++ name
  before_bytes : ∀ b ∈ before, isKeyByte b = true
  capitalised : isCapitalised name = true
  last : ∀ before' name', key = before' ++ bytes "create" ++ name' → isCapitalised name' = true →
    before'.length ≤ before.length

theorem cutFactory?_eq_some {key before name : Bytes} (h : cutFactory? key = some (before, name)) :
    key = before ++ bytes "create" ++ name ∧ isCapitalised name = true := by
  induction key generalizing before with
  | nil => simp [cutFactory?] at h
  | cons c rest ih =>
    unfold cutFactory? at h
    split at h
    · -- the last place where the key can be cut is taken
      next before' name' hrest =>
      obtain ⟨rfl, rfl⟩ : c :: before' = before ∧ name' = name := by simpa using h
      obtain ⟨hkey, hname⟩ := ih hrest
      exact ⟨by rw [hkey]; rfl, hname⟩
    · split at h
      · next name' hdrop =>
        split at h
        · next hname =>
          obtain ⟨rfl, rfl⟩ : [] = before ∧ name' = name := by simpa using h
          exact ⟨by simpa using Bytes.dropPrefix?_eq_some_iff.1 hdrop, hname⟩
        · simp at h
      · simp at h

/-- A key that can be cut is cut, and not before the given place. -/
theorem exists_cutFactory? {key before' name' : Bytes} (hkey : key = before' ++ bytes "create" ++ name')
    (hname : isCapitalised name' = true) :
    ∃ before name, cutFactory? key = some (before, name) ∧ before'.length ≤ before.length := by
  induction key generalizing before' with
  | nil => simp [show bytes "create" ≠ [] by decide] at hkey
  | cons c rest ih =>
    cases before' with
    | nil =>
      have hdrop : Bytes.dropPrefix? (bytes "create") (c :: rest) = some name' :=
        Bytes.dropPrefix?_eq_some_iff.2 hkey
      -- the cut at the head of the key is taken only if there is none behind it
      cases hrest : cutFactory? rest with
      | some cut => exact ⟨c :: cut.1, cut.2, by simp [cutFactory?, hrest], Nat.zero_le _⟩
      | none => exact ⟨[], name', by simp [cutFactory?, hrest, hdrop, hname], Nat.le_refl _⟩
    | cons d before' =>
      obtain ⟨-, htail⟩ := List.cons.inj hkey
      obtain ⟨before, name, hcut, hle⟩ := ih htail
      exact ⟨c :: before, name, by simp [cutFactory?, hcut], Nat.succ_le_succ hle⟩

theorem cutFactory?_eq_some_iff {key before name : Bytes} (hbytes : ∀ b ∈ key, isKeyByte b = true) :
    cutFactory? key = some (before, name) ↔ FactoryForm key before name := by
  constructor
  · intro h
    obtain ⟨hkey, hname⟩ := cutFactory?_eq_some h
    refine ⟨hkey, fun b hb => hbytes b (by simp [hkey, hb]), hname, ?_⟩
    intro before' name' hkey' hname'
    obtain ⟨x, y, hcut, hle⟩ := exists_cutFactory? hkey' hname'
    obtain ⟨rfl, rfl⟩ : before = x ∧ name = y := by simpa using h.symm.trans hcut
    exact hle
  · intro h
    obtain ⟨x, y, hcut, hle⟩ := exists_cutFactory? h.key_eq h.capitalised
    obtain ⟨hkey, hname⟩ := cutFactory?_eq_some hcut
    -- both cuts are as far to the right as possible, so they are in one place
    have hlength : before.length = x.length := Nat.le_antisymm hle (h.last x y hkey hname)
    have heq : before ++ (bytes "create" ++ name) = x ++ (bytes "create" ++ y) := by
      simpa using h.key_eq.symm.trans hkey
    obtain ⟨rfl, hrest⟩ := List.append_inj heq hlength
    rw [hcut, List.append_cancel_left hrest]

theorem FactoryForm.key_bytes {key before name : Bytes} (h : FactoryForm key before name) :
    ∀ b ∈ key, isKeyByte b = true := by
  have hcreate : (bytes "create").all isKeyByte = true := by decide
  intro b hb
  rw [h.key_eq, List.mem_append, List.mem_append] at hb
  rcases hb with (hb | hb) | hb
  · exact h.before_bytes b hb
  · exact List.all_eq_true.1 hcreate b hb
  · exact isKeyByte_of_mem_capitalised h.capitalised hb

/-- Taking `create` out of a factory key leaves a class key. -/
theorem FactoryForm.isClassKey {key before name : Bytes} (h : FactoryForm key before name) :
    isClassKey (before ++ name) = true :=
  isClassKey_iff.2 ⟨before, name, rfl, h.before_bytes, h.capitalised⟩

/-! ## §3 Constructor keys -/

/-- The two forms of a constructor key, with the class that each stands for. -/
def ConstructorKey (key classKey : Bytes) : Prop :=
  (key = bytes "new " ++ classKey ∧ isClassKey classKey = true) ∨
    ∃ before name, FactoryForm key before name ∧ classKey = before ++ name

theorem constructedClass?_eq_some_iff {key classKey : Bytes} :
    constructedClass? key = some classKey ↔ ConstructorKey key classKey := by
  unfold constructedClass? ConstructorKey
  cases hdrop : Bytes.dropPrefix? (bytes "new ") key with
  | some k =>
    obtain rfl := Bytes.dropPrefix?_eq_some_iff.1 hdrop
    have hfactory : ¬∃ before name, FactoryForm (bytes "new " ++ k) before name ∧
        classKey = before ++ name := by
      -- a factory key holds no blank
      rintro ⟨before, name, hform, -⟩
      have hblank : byte ' ' ∈ bytes "new " ++ k := List.mem_append_left _ (by decide)
      exact absurd (hform.key_bytes _ hblank) (by decide)
    rw [Option.ite_none_right_eq_some, Option.some.injEq]
    constructor
    · rintro ⟨hk, rfl⟩
      exact Or.inl ⟨rfl, hk⟩
    · rintro (⟨heq, hk⟩ | h)
      · obtain rfl := List.append_cancel_left heq
        exact ⟨hk, rfl⟩
      · exact absurd h hfactory
  | none =>
    have hnew : ¬(key = bytes "new " ++ classKey ∧ isClassKey classKey = true) := by
      rintro ⟨hkey, -⟩
      rw [Bytes.dropPrefix?_eq_some_iff.2 hkey] at hdrop
      exact absurd hdrop (by simp)
    rw [Option.ite_none_right_eq_some, List.all_eq_true, Option.map_eq_some_iff]
    constructor
    · rintro ⟨hbytes, ⟨before, name⟩, hcut, rfl⟩
      exact Or.inr ⟨before, name, (cutFactory?_eq_some_iff hbytes).1 hcut, rfl⟩
    · rintro (h | ⟨before, name, hform, rfl⟩)
      · exact absurd h hnew
      · exact ⟨hform.key_bytes, (before, name), (cutFactory?_eq_some_iff hform.key_bytes).2 hform, rfl⟩

namespace ConstructorKey

variable {key classKey : Bytes}

/-- The class of a constructor has a class key. -/
theorem isClassKey (h : ConstructorKey key classKey) : isClassKey classKey = true := by
  rcases h with ⟨-, hclass⟩ | ⟨before, name, hform, rfl⟩
  · exact hclass
  · exact hform.isClassKey

/-- A constructor key holds no parenthesis, so it ends where the arguments begin. -/
theorem parenthesis_notMem (h : ConstructorKey key classKey) : byte '(' ∉ key := by
  intro hmem
  rcases h with ⟨rfl, hclass⟩ | ⟨before, name, hform, -⟩
  · rcases List.mem_append.1 hmem with hmem | hmem
    · exact absurd hmem (by decide)
    · exact absurd (isKeyByte_of_mem_classKey hclass hmem) (by decide)
  · exact absurd (hform.key_bytes _ hmem) (by decide)

end ConstructorKey

end DocPages
