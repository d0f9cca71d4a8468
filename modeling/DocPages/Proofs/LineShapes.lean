import DocPages.Proofs.DeclarationKeys
import DocPages.Proofs.Marks

/-!
# The Shapes of Method Lines

A method line is characterised by the parts it can be put together from.  A call is cut at the last
parenthesis that leaves the mark out of the name, so a cut is the right one when no parenthesis of the
arguments stands before the first mark in them.

## Main results

- `cutCall?_eq_some_iff`: where a call is cut
- `Callable.longest`, `Callable.exists_longest`: it is cut at the longest name
- `instanceMethodShape?_eq_some_iff`, `classMethodShape?_eq_some_iff`: what is a method line
- `instanceMethodShape?_eq_none_iff`: when a line that ends in a call declares no instance method
- `classShape?_eq_none`, `constructorShape?_eq_none`: lines that have no such shape
- `Line.classify_constructor`, `Line.classify_instanceMethod`, `Line.classify_classMethod`: a line of one
  of these shapes is read by it
-/

namespace DocPages

/-! ## §1 Calls -/

/-- A call with its result, put together. -/
def callText (name arguments returns : Bytes) : Bytes :=
  name ++ byte '(' :: (arguments ++ byte ')' :: (bytes " -> " ++ returns))

/-- The parts that a call can be cut into. -/
structure Callable (mark : UInt8) (name arguments returns : Bytes) : Prop where
  name_bytes : mark ∉ name
  arguments_bytes : byte ')' ∉ arguments
  returns_bytes : byte ')' ∉ returns
  returns_ne_nil : returns ≠ []

theorem callTail?_eq_some_iff {s a r : Bytes} :
    callTail? s = some (a, r) ↔
      s = a ++ byte ')' :: (bytes " -> " ++ r) ∧ byte ')' ∉ a ∧ byte ')' ∉ r ∧ r ≠ [] := by
  have hmark : bytes ") -> " = byte ')' :: bytes " -> " := by decide
  constructor
  · intro h
    have hs := List.takeWhile_append_dropWhile (p := (· != byte ')')) (l := s)
    unfold callTail? at h
    dsimp only at h
    split at h
    · next returns hdrop =>
      split at h
      · simp at h
      next hreturns =>
      obtain ⟨rfl, rfl⟩ := Prod.mk.inj (Option.some.inj h)
      rw [Bytes.dropPrefix?_eq_some_iff.1 hdrop, hmark] at hs
      simp only [Bool.or_eq_true, List.isEmpty_iff, List.contains_iff_mem, not_or] at hreturns
      refine ⟨hs.symm, fun hmem => ?_, hreturns.2, hreturns.1⟩
      simpa using List.mem_takeWhile_imp hmem
    · simp at h
  · rintro ⟨rfl, ha, hr, hne⟩
    have hall : ∀ b ∈ a, (b != byte ')') = true := by
      intro b hb
      simp only [bne_iff_ne]
      rintro rfl
      exact ha hb
    have htake : (a ++ byte ')' :: (bytes " -> " ++ r)).takeWhile (· != byte ')') = a := by
      rw [List.takeWhile_append_of_pos hall]
      simp
    have hdrop : (a ++ byte ')' :: (bytes " -> " ++ r)).dropWhile (· != byte ')') =
        bytes ") -> " ++ r := by
      rw [List.dropWhile_append_of_pos hall, hmark]
      simp
    have hprefix : Bytes.dropPrefix? (bytes ") -> ") (bytes ") -> " ++ r) = some r :=
      Bytes.dropPrefix?_eq_some_iff.2 rfl
    simp [callTail?, htake, hdrop, hprefix, hne, hr]

/-- A text that can be cut into a call is cut. -/
theorem exists_cutCall? {mark : UInt8} (hmark : mark ≠ byte '(') {n a r : Bytes}
    (h : Callable mark n a r) : ∃ call, cutCall? (· != mark) (callText n a r) = some call := by
  obtain ⟨hn, ha, hr, hne⟩ := h
  induction n with
  | nil =>
    have htail := callTail?_eq_some_iff.2 ⟨rfl, ha, hr, hne⟩
    have htext : callText [] a r = byte '(' :: (a ++ byte ')' :: (bytes " -> " ++ r)) := rfl
    rw [htext, cutCall?]
    split
    · exact ⟨_, rfl⟩
    · exact ⟨_, by simp [htail]; rfl⟩
  | cons c n ih =>
    have hc : (c != mark) = true := by
      simp only [bne_iff_ne]
      rintro rfl
      exact hn List.mem_cons_self
    obtain ⟨call, hcall⟩ := ih fun hmem => hn (List.mem_cons_of_mem _ hmem)
    have htext : callText (c :: n) a r = c :: callText n a r := rfl
    exact ⟨_, by rw [htext, cutCall?, hc, if_pos rfl, hcall]⟩

/-- A call is cut at the longest name: no parenthesis of the arguments could end a longer one. -/
theorem callable_of_cutCall? {mark : UInt8} (hmark : mark ≠ byte '(') {s n a r : Bytes}
    (h : cutCall? (· != mark) s = some (n, a, r)) :
    s = callText n a r ∧ Callable mark n a r ∧ ¬Opens mark a := by
  induction s generalizing n with
  | nil => simp [cutCall?] at h
  | cons c s ih =>
    cases hcall : (if c != mark then cutCall? (· != mark) s else none) with
    | some call =>
      rw [cutCall?, hcall] at h
      obtain ⟨name, a', r'⟩ := call
      obtain ⟨rfl, rfl, rfl⟩ : c :: name = n ∧ a' = a ∧ r' = r := by simpa using h
      rw [Option.ite_none_right_eq_some] at hcall
      obtain ⟨hc, hcall⟩ := hcall
      obtain ⟨rfl, ⟨hn, ha, hr, hne⟩, hopens⟩ := ih hcall
      have hc : mark ≠ c := by
        rintro rfl
        simp at hc
      exact ⟨rfl, ⟨by simp [hc, hn], ha, hr, hne⟩, hopens⟩
    | none =>
      rw [cutCall?, hcall] at h
      dsimp only at h
      rw [Option.ite_none_right_eq_some] at h
      obtain ⟨rfl, h⟩ := h
      obtain ⟨call, htail, hparts⟩ := Option.map_eq_some_iff.1 h
      obtain ⟨rfl, rfl⟩ : [] = n ∧ call = (a, r) := by simpa using hparts
      obtain ⟨rfl, ha, hr, hne⟩ := callTail?_eq_some_iff.1 htail
      refine ⟨rfl, ⟨by simp, ha, hr, hne⟩, ?_⟩
      -- another parenthesis before the mark would have been cut at
      rintro ⟨x, y, rfl, hx⟩
      have hy : byte ')' ∉ y := fun hmem => ha (by simp [hmem])
      obtain ⟨call, hcall'⟩ := exists_cutCall? hmark ⟨hx, hy, hr, hne⟩
      have htext : callText x y r = x ++ byte '(' :: y ++ byte ')' :: (bytes " -> " ++ r) := by
        simp [callText]
      rw [if_pos (by simpa using Ne.symm hmark), ← htext, hcall'] at hcall
      exact absurd hcall (by simp)

/-- The result of a call is what follows its last closing parenthesis. -/
theorem append_callText_inj (x x' : Bytes) {n a r n' a' r' : Bytes} (hr : byte ')' ∉ r)
    (hr' : byte ')' ∉ r') (h : x ++ callText n a r = x' ++ callText n' a' r') :
    x ++ (n ++ byte '(' :: a) = x' ++ (n' ++ byte '(' :: a') ∧ r = r' := by
  have harrow : ∀ {r}, byte ')' ∉ r → byte ')' ∉ bytes " -> " ++ r := by
    intro r hr hmem
    rcases List.mem_append.1 hmem with hmem | hmem
    · exact absurd hmem (by decide)
    · exact hr hmem
  have hcut : (x ++ (n ++ byte '(' :: a)) ++ byte ')' :: (bytes " -> " ++ r) =
      (x' ++ (n' ++ byte '(' :: a')) ++ byte ')' :: (bytes " -> " ++ r') := by
    simpa [callText] using h
  obtain ⟨hcall, hreturns⟩ := Bytes.append_cons_inj_of_last (harrow hr) (harrow hr') hcut
  exact ⟨hcall, List.append_cancel_left hreturns⟩

/-- A call whose arguments open no further call before the mark has the longest name that its text can
    be cut with. -/
theorem Callable.longest {mark : UInt8} {n a r n' a' r' : Bytes} (h : Callable mark n a r)
    (hopens : ¬Opens mark a) (h' : Callable mark n' a' r')
    (htext : callText n' a' r' = callText n a r) :
    (n' = n ∧ a' = a ∧ r' = r) ∨ n'.length < n.length := by
  obtain ⟨hcall, hr⟩ : n' ++ byte '(' :: a' = n ++ byte '(' :: a ∧ r' = r :=
    append_callText_inj [] [] h'.returns_bytes h.returns_bytes htext
  rcases List.append_eq_append_iff.1 hcall with ⟨w, hn, hw⟩ | ⟨w, hn, hw⟩
  · cases w with
    | nil =>
      obtain ⟨-, ha⟩ := List.cons.inj hw
      exact Or.inl ⟨by simpa using hn.symm, ha, hr⟩
    | cons c w =>
      right
      rw [hn, List.length_append, List.length_cons]
      omega
  · cases w with
    | nil =>
      obtain ⟨-, ha⟩ := List.cons.inj hw
      exact Or.inl ⟨by simpa using hn, ha.symm, hr⟩
    | cons c w =>
      -- a longer name would end at a parenthesis of the arguments
      obtain ⟨rfl, rfl⟩ := List.cons.inj hw
      exact absurd ⟨w, a', rfl, fun hmem => h'.name_bytes (by simp [hn, hmem])⟩ hopens

/-- A text has one way to be cut at its longest name. -/
theorem Callable.unique {mark : UInt8} {n a r n' a' r' : Bytes} (h : Callable mark n a r)
    (hopens : ¬Opens mark a) (h' : Callable mark n' a' r') (hopens' : ¬Opens mark a')
    (htext : callText n a r = callText n' a' r') : n = n' ∧ a = a' ∧ r = r' := by
  rcases h'.longest hopens' h htext with heq | hlt
  · exact heq
  · rcases h.longest hopens h' htext.symm with ⟨rfl, rfl, rfl⟩ | hlt'
    · exact ⟨rfl, rfl, rfl⟩
    · omega

theorem cutCall?_eq_some_iff {mark : UInt8} (hmark : mark ≠ byte '(') {s n a r : Bytes} :
    cutCall? (· != mark) s = some (n, a, r) ↔
      s = callText n a r ∧ Callable mark n a r ∧ ¬Opens mark a := by
  refine ⟨callable_of_cutCall? hmark, ?_⟩
  rintro ⟨rfl, hcallable, hopens⟩
  obtain ⟨⟨n', a', r'⟩, hcut⟩ := exists_cutCall? hmark hcallable
  obtain ⟨htext, hcallable', hopens'⟩ := callable_of_cutCall? hmark hcut
  obtain ⟨rfl, rfl, rfl⟩ := hcallable.unique hopens hcallable' hopens' htext
  exact hcut

/-- A text that can be cut into a call can be cut at its longest name. -/
theorem Callable.exists_longest {mark : UInt8} (hmark : mark ≠ byte '(') {n a r : Bytes}
    (h : Callable mark n a r) :
    ∃ n' a' r', callText n a r = callText n' a' r' ∧ Callable mark n' a' r' ∧ ¬Opens mark a' ∧
      n.length ≤ n'.length := by
  obtain ⟨⟨n', a', r'⟩, hcut⟩ := exists_cutCall? hmark h
  obtain ⟨htext, h', hopens'⟩ := (cutCall?_eq_some_iff hmark).1 hcut
  refine ⟨n', a', r', htext, h', hopens', ?_⟩
  rcases h'.longest hopens' h htext with ⟨rfl, -, -⟩ | hlt
  · exact le_rfl
  · exact hlt.le

/-! ## §2 Methods -/

namespace MethodShape

/-- The line of a method, put together. -/
def text (mark : UInt8) (s : MethodShape) : Bytes :=
  s.owner ++ mark :: callText s.name s.arguments s.returns

/-- The parts of a method line that is cut at the longest name. -/
structure WellFormed (mark : UInt8) (s : MethodShape) : Prop where
  owner_ne_nil : s.owner ≠ []
  name_ne_nil : s.name ≠ []
  callable : Callable mark s.name s.arguments s.returns
  not_opens : ¬Opens mark s.arguments

end MethodShape

theorem instanceMethodShape?_eq_some_iff {line : Bytes} {s : MethodShape} :
    instanceMethodShape? line = some s ↔
      line = s.text (byte '#') ∧ s.WellFormed (byte '#') ∧ byte '#' ∉ s.owner := by
  constructor
  · intro h
    unfold instanceMethodShape? at h
    split at h
    · simp at h
    next owner rest hcut =>
    rw [bytes_hash] at hcut
    obtain ⟨rfl, howner⟩ := Bytes.cutFirst?_byte_eq_some_iff.1 hcut
    split at h
    · next name arguments returns hcall =>
      obtain ⟨rfl, hcallable, hopens⟩ := (cutCall?_eq_some_iff (by decide)).1 hcall
      split at h
      · simp at h
      next hne =>
      obtain rfl := Option.some.inj h
      simp only [Bool.or_eq_true, List.isEmpty_iff, not_or] at hne
      exact ⟨rfl, ⟨hne.1, hne.2, hcallable, hopens⟩, howner⟩
    · simp at h
  · rintro ⟨rfl, ⟨hne, hname, hcallable, hopens⟩, howner⟩
    have hcut : Bytes.cutFirst? [byte '#'] (s.text (byte '#')) =
        some (s.owner, callText s.name s.arguments s.returns) :=
      Bytes.cutFirst?_byte_eq_some_iff.2 ⟨rfl, howner⟩
    have hcall := (cutCall?_eq_some_iff (by decide)).2 ⟨rfl, hcallable, hopens⟩
    simp [instanceMethodShape?, bytes_hash, hcut, hcall, hne, hname]

/-- An owner, a number sign, a name and the opening of a call can be cut out of a text. -/
def HasCall (s : Bytes) : Prop :=
  ∃ owner name rest, s = owner ++ byte '#' :: (name ++ byte '(' :: rest) ∧ owner ≠ [] ∧
    byte '#' ∉ owner ∧ name ≠ [] ∧ byte '#' ∉ name ∧ byte ')' ∉ rest

/-- A line that ends in a call declares no instance method when nothing of the kind can be cut out of
    it in front of the last closing parenthesis. -/
theorem instanceMethodShape?_eq_none_iff {key arguments returns : Bytes}
    (hreturns : byte ')' ∉ returns) (hne : returns ≠ []) :
    instanceMethodShape? (callText key arguments returns) = none ↔
      ¬HasCall (key ++ byte '(' :: arguments) := by
  constructor
  · rintro hnone ⟨owner, name, rest, htext, howner_ne, howner, hname_ne, hname, hrest⟩
    have hcallable : Callable (byte '#') name rest returns := ⟨hname, hrest, hreturns, hne⟩
    obtain ⟨n, a, r, hcall, hcallable, hopens, hlength⟩ := hcallable.exists_longest (by decide)
    have hn : n ≠ [] := by
      apply List.ne_nil_of_length_pos
      exact (List.length_pos_iff.2 hname_ne).trans_le hlength
    have hline : callText key arguments returns = owner ++ byte '#' :: callText n a r := by
      rw [← hcall]
      have := congrArg (· ++ byte ')' :: (bytes " -> " ++ returns)) htext
      simpa [callText] using this
    have hshape : instanceMethodShape? (owner ++ byte '#' :: callText n a r) =
        some ⟨owner, n, a, r⟩ :=
      instanceMethodShape?_eq_some_iff.2 ⟨rfl, ⟨howner_ne, hn, hcallable, hopens⟩, howner⟩
    rw [hline, hshape] at hnone
    exact absurd hnone (by simp)
  · intro hnone
    cases hshape : instanceMethodShape? (callText key arguments returns) with
    | none => rfl
    | some t =>
      obtain ⟨htext, ht, howner⟩ := instanceMethodShape?_eq_some_iff.1 hshape
      have hline : [] ++ callText key arguments returns =
          (t.owner ++ [byte '#']) ++ callText t.name t.arguments t.returns := by
        simpa [MethodShape.text] using htext
      obtain ⟨hcut, -⟩ := append_callText_inj _ _ hreturns ht.callable.returns_bytes hline
      exact absurd ⟨t.owner, t.name, t.arguments, by simpa using hcut, ht.owner_ne_nil, howner,
        ht.name_ne_nil, ht.callable.name_bytes, ht.callable.arguments_bytes⟩ hnone

/-- The letters and dots that open a class method line end inside the name, so the last dot among them
    is the one behind the owner. -/
theorem cutLast?_takeWhile_text {s : MethodShape} (howner : ∀ b ∈ s.owner, isKeyByte b = true)
    (hname : byte '.' ∉ s.name) :
    ∃ start, Bytes.cutLast? [byte '.'] ((s.text (byte '.')).takeWhile isKeyByte) =
        some (s.owner, start) ∧
      start ++ (s.text (byte '.')).dropWhile isKeyByte = callText s.name s.arguments s.returns := by
  have hkey : ∀ b ∈ s.owner ++ [byte '.'], isKeyByte b = true := by
    intro b hb
    rcases List.mem_append.1 hb with hb | hb
    · exact howner b hb
    · rw [List.mem_singleton.1 hb]
      decide
  have htext : s.text (byte '.') =
      (s.owner ++ [byte '.']) ++ callText s.name s.arguments s.returns := by
    simp [MethodShape.text]
  have hstart : (callText s.name s.arguments s.returns).takeWhile isKeyByte =
      s.name.takeWhile isKeyByte := by
    have hparenthesis : isKeyByte (byte '(') = false := by decide
    rw [callText, List.takeWhile_append]
    split
    · next hall =>
      rw [(List.takeWhile_prefix _).eq_of_length hall]
      simp [hparenthesis]
    · rfl
  refine ⟨s.name.takeWhile isKeyByte, Bytes.cutLast?_byte_eq_some_iff.2 ⟨?_, ?_⟩, ?_⟩
  · rw [htext, List.takeWhile_append_of_pos hkey, hstart]
    simp
  · exact fun hmem => hname ((List.takeWhile_prefix _).subset hmem)
  · rw [htext, List.dropWhile_append_of_pos hkey, ← hstart, List.takeWhile_append_dropWhile]

theorem classMethodShape?_eq_some_iff {line : Bytes} {s : MethodShape} :
    classMethodShape? line = some s ↔
      line = s.text (byte '.') ∧ s.WellFormed (byte '.') ∧ ∀ b ∈ s.owner, isKeyByte b = true := by
  constructor
  · intro h
    have hline := List.takeWhile_append_dropWhile (p := isKeyByte) (l := line)
    unfold classMethodShape? at h
    split at h
    · simp at h
    next owner start hcut =>
    rw [bytes_dot] at hcut
    obtain ⟨hkey, -⟩ := Bytes.cutLast?_byte_eq_some_iff.1 hcut
    have howner : ∀ b ∈ owner, isKeyByte b = true :=
      fun b hb => List.mem_takeWhile_imp (hkey ▸ List.mem_append_left _ hb)
    split at h
    · next name arguments returns hcall =>
      obtain ⟨htext, hcallable, hopens⟩ := (cutCall?_eq_some_iff (by decide)).1 hcall
      split at h
      · simp at h
      next hne =>
      obtain rfl := Option.some.inj h
      simp only [Bool.or_eq_true, List.isEmpty_iff, not_or] at hne
      refine ⟨?_, ⟨hne.1, hne.2, hcallable, hopens⟩, howner⟩
      rw [← hline, hkey, MethodShape.text, ← htext]
      simp
    · simp at h
  · rintro ⟨rfl, ⟨hne, hname, hcallable, hopens⟩, howner⟩
    obtain ⟨start, hcut, hrest⟩ := cutLast?_takeWhile_text howner hcallable.name_bytes
    have hcall := (cutCall?_eq_some_iff (by decide)).2 ⟨rfl, hcallable, hopens⟩
    simp [classMethodShape?, bytes_dot, hcut, hrest, hcall, hne, hname]

/-! ## §3 Classes and constructors -/

/-- A line with a parenthesis declares no class. -/
theorem classShape?_eq_none {line : Bytes} (h : byte '(' ∈ line) : classShape? line = none := by
  cases hshape : classShape? line with
  | none => rfl
  | some key =>
    obtain ⟨rfl, hclass⟩ := classShape?_eq_some_iff.1 hshape
    have hkey : byte '(' ∈ key := by
      rcases List.mem_append.1 h with h | h
      · exact absurd h (by decide)
      · exact h
    exact absurd (isKeyByte_of_mem_classKey hclass hkey) (by decide)

/-- A constructor line ends with a parenthesis. -/
theorem ConstructorShape.getLast?_text (s : ConstructorShape) : s.text.getLast? = some (byte ')') := by
  rw [ConstructorShape.text, ← List.cons_append, ← List.append_assoc, List.getLast?_concat]

/-- A method line ends with its result, in which there is no parenthesis. -/
theorem MethodShape.WellFormed.getLast?_text_ne {mark : UInt8} {s : MethodShape} (h : s.WellFormed mark) :
    (s.text mark).getLast? ≠ some (byte ')') := by
  obtain ⟨c, hc⟩ : ∃ c, s.returns.getLast? = some c :=
    Option.isSome_iff_exists.1 (by simpa using h.callable.returns_ne_nil)
  have hs : (s.text mark).getLast? = some c := by
    simp only [MethodShape.text, callText, List.getLast?_append, List.getLast?_cons, hc]
    rfl
  intro hlast
  obtain rfl := Option.some.inj (hs.symm.trans hlast)
  exact absurd (List.mem_of_getLast? hc) h.callable.returns_bytes

/-- A method line declares no constructor: it does not end with a parenthesis. -/
theorem constructorShape?_eq_none {mark : UInt8} {s : MethodShape} (h : s.WellFormed mark) :
    constructorShape? (s.text mark) = none := by
  cases hshape : constructorShape? (s.text mark) with
  | none => rfl
  | some t =>
    obtain ⟨hline, -, -⟩ := constructorShape?_eq_some_iff.1 hshape
    have hlast : (s.text mark).getLast? = some (byte ')') := hline ▸ t.getLast?_text
    exact absurd hlast h.getLast?_text_ne

/-! ## §4 Reading by shape -/

namespace Line

variable {line : Bytes}

theorem classify_constructor {s : ConstructorShape} (h : constructorShape? line = some s) :
    classify line = s.declaration.map constructorLine := by
  obtain ⟨rfl, -, -⟩ := constructorShape?_eq_some_iff.1 h
  have hclass : classShape? s.text = none :=
    classShape?_eq_none (by simp [ConstructorShape.text])
  simp only [classify, hclass, h]

theorem classify_instanceMethod {s : MethodShape} (h : instanceMethodShape? line = some s) :
    classify line = (s.declaration (bytes "#")).map instanceMethodLine := by
  obtain ⟨rfl, hs, -⟩ := instanceMethodShape?_eq_some_iff.1 h
  have hclass : classShape? (s.text (byte '#')) = none :=
    classShape?_eq_none (by simp [MethodShape.text, callText])
  simp only [classify, hclass, constructorShape?_eq_none hs, h]

theorem classify_classMethod {s : MethodShape} (hinstance : instanceMethodShape? line = none)
    (h : classMethodShape? line = some s) :
    classify line = (s.declaration (bytes ".")).map classMethodLine := by
  obtain ⟨rfl, hs, -⟩ := classMethodShape?_eq_some_iff.1 h
  have hclass : classShape? (s.text (byte '.')) = none :=
    classShape?_eq_none (by simp [MethodShape.text, callText])
  simp only [classify, hclass, constructorShape?_eq_none hs, hinstance, h]

end Line

end DocPages
