import Mathlib.Data.List.Forall2
import Mathlib.Tactic.Tauto
import DocPages.Proofs.ConstructorKeys

/-!
# The Keys of Declarations

Every kind of declaration gives its key a form of its own.  In each form the key is longer than the
key of the class it names, so no declaration can own itself, and no form is the bare word that the
index page is called by.

## Main results

- `classShape?_eq_some_iff`, `constructorShape?_eq_some_iff`: what is a class or constructor line
- `Line.classify_cases`: how a line can have been read
- `Line.KeyForm`: how the key of a line is built from the key of its class
- `Line.classify_keyForm`: every line that is read has that form
- `Line.KeyForm.classKey_ne`, `Line.KeyForm.key_ne_nil`, `Line.KeyForm.key_ne_index`
-/

namespace DocPages

namespace Line

/-- The declaration of a constructor or method line. -/
def declaration? : Line → Option Declaration
  | constructorLine d => some d
  | instanceMethodLine d => some d
  | classMethodLine d => some d
  | _ => none

/-- The key that a line declares. -/
def key? : Line → Option Bytes
  | classLine key => some key
  | l => l.declaration?.map Declaration.key

/-- How the key of a line is built. -/
def KeyForm : Line → Prop
  | prose _ => True
  | noteLine _ => True
  | classLine key => isClassKey key = true
  | constructorLine d => d.key = bytes "new " ++ d.classKey ∨
      ∃ before name, d.key = before ++ bytes "create" ++ name ∧ d.classKey = before ++ name ∧
        isCapitalised name = true
  | instanceMethodLine d => ∃ name, d.key = d.classKey ++ bytes "#" ++ name
  | classMethodLine d => ∃ name, d.key = d.classKey ++ bytes "." ++ name

end Line

/-! ## §1 The shapes of classes and constructors -/

theorem classShape?_eq_some_iff {line key : Bytes} :
    classShape? line = some key ↔ line = bytes "class " ++ key ∧ isClassKey key = true := by
  unfold classShape?
  split
  · next key' hdrop =>
    obtain rfl := Bytes.dropPrefix?_eq_some_iff.1 hdrop
    rw [Option.ite_none_right_eq_some, Option.some.injEq]
    constructor
    · rintro ⟨hkey, rfl⟩
      exact ⟨rfl, hkey⟩
    · rintro ⟨heq, hkey⟩
      obtain rfl := List.append_cancel_left heq
      exact ⟨hkey, rfl⟩
  · next hdrop =>
    refine iff_of_false (by simp) ?_
    rintro ⟨hline, -⟩
    rw [Bytes.dropPrefix?_eq_some_iff.2 hline] at hdrop
    exact absurd hdrop (by simp)

namespace ConstructorShape

/-- The line of a constructor, put together. -/
def text (s : ConstructorShape) : Bytes := s.key ++ byte '(' :: (s.arguments ++ [byte ')'])

end ConstructorShape

theorem constructorShape?_eq_some_iff {line : Bytes} {s : ConstructorShape} :
    constructorShape? line = some s ↔
      line = s.text ∧ ConstructorKey s.key s.classKey ∧ byte ')' ∉ s.arguments := by
  constructor
  · intro h
    unfold constructorShape? at h
    split at h
    · simp at h
    next key rest hcut =>
    rw [bytes_parenthesis.1] at hcut
    obtain ⟨rfl, -⟩ := Bytes.cutFirst?_byte_eq_some_iff.1 hcut
    split at h
    · next classKey arguments hclass hdrop =>
      rw [bytes_parenthesis.2] at hdrop
      obtain rfl := Bytes.dropSuffix?_eq_some_iff.1 hdrop
      split at h
      · simp at h
      next harguments =>
      obtain rfl := Option.some.inj h
      exact ⟨rfl, constructedClass?_eq_some_iff.1 hclass, by simpa using harguments⟩
    · simp at h
  · rintro ⟨rfl, hkey, harguments⟩
    have hclass := constructedClass?_eq_some_iff.2 hkey
    have hcut : Bytes.cutFirst? [byte '('] s.text = some (s.key, s.arguments ++ [byte ')']) :=
      Bytes.cutFirst?_byte_eq_some_iff.2 ⟨rfl, hkey.parenthesis_notMem⟩
    have hdrop : Bytes.dropSuffix? [byte ')'] (s.arguments ++ [byte ')']) = some s.arguments :=
      Bytes.dropSuffix?_eq_some_iff.2 rfl
    simp [constructorShape?, bytes_parenthesis, hcut, hclass, hdrop, harguments]

/-! ## §2 Reading a line -/

/-- The wording of every refusal names a malformed signature. -/
theorem MalformedSignature.message_eq (e : MalformedSignature) :
    ∃ detail, e.message = bytes "malformed signature: " ++ detail := by
  cases e with
  | unbalancedBrackets text => exact ⟨bytes "unbalanced brackets in " ++ quote text, rfl⟩
  | argumentList text => exact ⟨bytes "argument list " ++ quote text, rfl⟩
  | argument token => exact ⟨bytes "argument " ++ quote token, rfl⟩
  | emptyType text => exact ⟨bytes "empty type in " ++ quote text, rfl⟩

theorem ConstructorShape.declaration_eq_ok_iff {shape : ConstructorShape} {d : Declaration} :
    shape.declaration = .ok d ↔
      parseArguments shape.arguments = .ok d.parameters ∧ d.key = shape.key ∧
        d.classKey = shape.classKey ∧ d.returns = [shape.classKey] := by
  obtain ⟨key, classKey, parameters, returns⟩ := d
  cases hargs : parseArguments shape.arguments with
  | error e => simp [declaration, hargs, bind, Except.bind]
  | ok ps =>
    simp only [declaration, hargs, bind, Except.bind, pure, Except.pure, Except.ok.injEq,
      Declaration.mk.injEq, eq_comm]
    tauto

theorem MethodShape.declaration_eq_ok_iff {mark : Bytes} {shape : MethodShape} {d : Declaration} :
    shape.declaration mark = .ok d ↔
      parseArguments shape.arguments = .ok d.parameters ∧ parseTypes shape.returns = .ok d.returns ∧
        d.key = shape.owner ++ mark ++ shape.name ∧ d.classKey = shape.owner := by
  obtain ⟨key, classKey, parameters, returns⟩ := d
  cases hargs : parseArguments shape.arguments with
  | error e => simp [declaration, hargs, bind, Except.bind]
  | ok ps =>
    cases hreturns : parseTypes shape.returns with
    | error e => simp [declaration, hargs, hreturns, bind, Except.bind]
    | ok types =>
      simp only [declaration, hargs, hreturns, bind, Except.bind, pure, Except.pure, Except.ok.injEq,
        Declaration.mk.injEq, eq_comm]
      tauto

theorem ok_of_map_eq_ok {ε α β : Type} {f : α → β} {x : Except ε α} {b : β}
    (h : x.map f = .ok b) : ∃ a, x = .ok a ∧ f a = b := by
  cases x with
  | error e => simp [Except.map] at h
  | ok a => exact ⟨a, rfl, by simpa [Except.map] using h⟩

/-- A list of computations succeeds when each of them does, with one result for each. -/
theorem mapM_eq_ok_iff {ε α β : Type} {f : α → Except ε β} {xs : List α} {ys : List β} :
    xs.mapM f = .ok ys ↔ List.Forall₂ (fun x y => f x = .ok y) xs ys := by
  induction xs generalizing ys with
  | nil => simp [pure, Except.pure, eq_comm]
  | cons x xs ih =>
    rw [List.mapM_cons, List.forall₂_cons_left_iff]
    cases hx : f x with
    | error e => simp [bind, Except.bind]
    | ok y =>
      cases hxs : xs.mapM f with
      | error e =>
        have hnone : ∀ ys', ¬List.Forall₂ (fun x y => f x = .ok y) xs ys' := by
          intro ys' h
          simp [ih.2 h] at hxs
        simp [bind, Except.bind, hnone]
      | ok ys' =>
        have huniq : ∀ ys'', List.Forall₂ (fun x y => f x = .ok y) xs ys'' ↔ ys' = ys'' := by
          intro ys''
          rw [← ih, hxs, Except.ok.injEq]
        simp [bind, Except.bind, pure, Except.pure, huniq, eq_comm]

theorem exists_mapM_eq_ok_iff {ε α β : Type} {f : α → Except ε β} {xs : List α} :
    (∃ ys, xs.mapM f = .ok ys) ↔ ∀ x ∈ xs, ∃ y, f x = .ok y := by
  simp only [mapM_eq_ok_iff]
  induction xs with
  | nil => simp
  | cons x xs ih =>
    rw [List.forall_mem_cons, ← ih]
    constructor
    · intro ⟨ys, h⟩
      obtain ⟨y, rest, hy, hrest, -⟩ := List.forall₂_cons_left_iff.1 h
      exact ⟨⟨y, hy⟩, rest, hrest⟩
    · intro ⟨⟨y, hy⟩, rest, hrest⟩
      exact ⟨y :: rest, .cons hy hrest⟩

theorem exists_of_forall₂_of_mem {α β : Type} {R : α → β → Prop} {xs : List α} {ys : List β}
    (h : List.Forall₂ R xs ys) {y : β} (hy : y ∈ ys) : ∃ x ∈ xs, R x y := by
  induction h with
  | nil => simp at hy
  | cons hxy _ ih =>
    rcases List.mem_cons.1 hy with rfl | hy
    · exact ⟨_, List.mem_cons_self, hxy⟩
    · obtain ⟨x, hx, hxy⟩ := ih hy
      exact ⟨x, List.mem_cons_of_mem _ hx, hxy⟩

namespace Line

/-- How a line can have been read: by one of the shapes, or as prose. -/
theorem classify_cases {text : Bytes} {l : Line} (h : classify text = .ok l) :
    (∃ key, classShape? text = some key ∧ l = classLine key) ∨
      (∃ s d, constructorShape? text = some s ∧ s.declaration = .ok d ∧ l = constructorLine d) ∨
      (∃ s d, instanceMethodShape? text = some s ∧ s.declaration (bytes "#") = .ok d ∧
        l = instanceMethodLine d) ∨
      (∃ s d, instanceMethodShape? text = none ∧ classMethodShape? text = some s ∧
        s.declaration (bytes ".") = .ok d ∧ l = classMethodLine d) ∨
      (∃ s n, noteShape? text = some s ∧ s.note = .ok n ∧ l = noteLine n) ∨ l = prose text := by
  unfold classify at h
  split at h
  · next key hshape => exact Or.inl ⟨key, hshape, (Except.ok.inj h).symm⟩
  split at h
  · next shape hshape =>
    obtain ⟨d, hd, rfl⟩ := ok_of_map_eq_ok h
    exact Or.inr (Or.inl ⟨shape, d, hshape, hd, rfl⟩)
  split at h
  · next shape hshape =>
    obtain ⟨d, hd, rfl⟩ := ok_of_map_eq_ok h
    exact Or.inr (Or.inr (Or.inl ⟨shape, d, hshape, hd, rfl⟩))
  next hinstance =>
  split at h
  · next shape hshape =>
    obtain ⟨d, hd, rfl⟩ := ok_of_map_eq_ok h
    exact Or.inr (Or.inr (Or.inr (Or.inl ⟨shape, d, hinstance, hshape, hd, rfl⟩)))
  split at h
  · next shape hshape =>
    obtain ⟨n, hn, rfl⟩ := ok_of_map_eq_ok h
    exact Or.inr (Or.inr (Or.inr (Or.inr (Or.inl ⟨shape, n, hshape, hn, rfl⟩))))
  · exact Or.inr (Or.inr (Or.inr (Or.inr (Or.inr (Except.ok.inj h).symm))))

/-- Every line that is read has the key form of its kind. -/
theorem classify_keyForm {text : Bytes} {l : Line} (h : classify text = .ok l) : l.KeyForm := by
  rcases classify_cases h with ⟨key, hshape, rfl⟩ | ⟨shape, d, hshape, hd, rfl⟩ |
    ⟨shape, d, -, hd, rfl⟩ | ⟨shape, d, -, -, hd, rfl⟩ | ⟨-, n, -, -, rfl⟩ | rfl
  · exact (classShape?_eq_some_iff.1 hshape).2
  · -- reading the arguments of a constructor changes neither key
    obtain ⟨-, hkey, hclass, -⟩ := ConstructorShape.declaration_eq_ok_iff.1 hd
    simp only [KeyForm, hkey, hclass]
    rcases (constructorShape?_eq_some_iff.1 hshape).2.1 with
      ⟨hnew, -⟩ | ⟨before, name, hform, hbefore⟩
    · exact Or.inl hnew
    · exact Or.inr ⟨before, name, hform.key_eq, hbefore, hform.capitalised⟩
  · -- the two method lines differ in the mark between owner and name
    obtain ⟨-, -, hkey, hclass⟩ := MethodShape.declaration_eq_ok_iff.1 hd
    exact ⟨shape.name, by rw [hkey, hclass]⟩
  · obtain ⟨-, -, hkey, hclass⟩ := MethodShape.declaration_eq_ok_iff.1 hd
    exact ⟨shape.name, by rw [hkey, hclass]⟩
  · trivial
  · trivial

namespace KeyForm

/-- A declaration does not name its own key as its class: the key is always the longer one. -/
theorem classKey_ne {l : Line} (hl : l.KeyForm) {d : Declaration} (hd : l.declaration? = some d) :
    d.classKey ≠ d.key := by
  intro heq
  have hlength := congrArg List.length heq
  cases l with
  | prose _ => simp [declaration?] at hd
  | classLine _ => simp [declaration?] at hd
  | noteLine _ => simp [declaration?] at hd
  | constructorLine _ =>
    obtain rfl := Option.some.inj hd
    have hnew : (bytes "new ").length = 4 := by decide
    have hcreate : (bytes "create").length = 6 := by decide
    rcases hl with hkey | ⟨before, name, hkey, hclass, -⟩
    · rw [hkey, List.length_append, hnew] at hlength
      omega
    · rw [hkey, hclass] at hlength
      simp only [List.length_append, hcreate] at hlength
      omega
  | instanceMethodLine _ =>
    obtain rfl := Option.some.inj hd
    obtain ⟨name, hkey⟩ := hl
    have hmark : (bytes "#").length = 1 := by decide
    rw [hkey] at hlength
    simp only [List.length_append, hmark] at hlength
    omega
  | classMethodLine _ =>
    obtain rfl := Option.some.inj hd
    obtain ⟨name, hkey⟩ := hl
    have hmark : (bytes ".").length = 1 := by decide
    rw [hkey] at hlength
    simp only [List.length_append, hmark] at hlength
    omega

/-- No declaration has the empty key. -/
theorem key_ne_nil {l : Line} (hl : l.KeyForm) {key : Bytes} (hkey : l.key? = some key) :
    key ≠ [] := by
  rintro rfl
  cases l with
  | prose _ => simp [key?, declaration?] at hkey
  | noteLine _ => simp [key?, declaration?] at hkey
  | classLine _ =>
    obtain rfl := Option.some.inj hkey
    have hclass : isClassKey [] = true := hl
    exact absurd hclass (by decide)
  | constructorLine d =>
    have hnil : d.key = [] := Option.some.inj hkey
    rcases hl with hnew | ⟨before, name, hcreate, -, -⟩
    · simp [hnil, show bytes "new " ≠ [] by decide] at hnew
    · simp [hnil, show bytes "create" ≠ [] by decide] at hcreate
  | instanceMethodLine d =>
    have hnil : d.key = [] := Option.some.inj hkey
    obtain ⟨name, hname⟩ := hl
    simp [hnil, show bytes "#" ≠ [] by decide] at hname
  | classMethodLine d =>
    have hnil : d.key = [] := Option.some.inj hkey
    obtain ⟨name, hname⟩ := hl
    simp [hnil, show bytes "." ≠ [] by decide] at hname

/-- No declaration has the key `index`. -/
theorem key_ne_index {l : Line} (hl : l.KeyForm) : l.key? ≠ some (bytes "index") := by
  intro hindex
  cases l with
  | prose _ => simp [key?, declaration?] at hindex
  | noteLine _ => simp [key?, declaration?] at hindex
  | classLine key =>
    obtain rfl := Option.some.inj hindex
    have hclass : isClassKey (bytes "index") = true := hl
    exact absurd hclass (by decide)
  | constructorLine d =>
    have hkey : d.key = bytes "index" := Option.some.inj hindex
    rcases hl with hnew | ⟨before, name, hcreate, -, hname⟩
    · have hhead := congrArg List.head? (hnew.symm.trans hkey)
      have hn : (bytes "new ").head? = some 110 := by decide
      have hi : (bytes "index").head? = some 105 := by decide
      rw [List.head?_append, hn, hi] at hhead
      simp at hhead
    · -- `create` alone is longer than the word
      have hlength := congrArg List.length (hcreate.symm.trans hkey)
      have hc : (bytes "create").length = 6 := by decide
      have hi : (bytes "index").length = 5 := by decide
      simp only [List.length_append, hc, hi] at hlength
      omega
  | instanceMethodLine d =>
    -- the word has neither of the marks
    obtain ⟨name, hname⟩ := hl
    have hkey : d.key = bytes "index" := Option.some.inj hindex
    have hmem : byte '#' ∈ d.key := by simp [hname, bytes_hash]
    rw [hkey] at hmem
    exact absurd hmem (by decide)
  | classMethodLine d =>
    obtain ⟨name, hname⟩ := hl
    have hkey : d.key = bytes "index" := Option.some.inj hindex
    have hmem : byte '.' ∈ d.key := by simp [hname, bytes_dot]
    rw [hkey] at hmem
    exact absurd hmem (by decide)

end KeyForm

end Line

end DocPages
