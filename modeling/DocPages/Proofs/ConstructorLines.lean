import DocPages.Proofs.LineShapes

/-!
# The Class That a Constructor Line Names

A constructor line is a constructor key and a list of arguments in parentheses.  Which class it belongs
to is decided by its key alone, and so is what it results in: the class.  Every class that a constructor
line names is one that a class line can declare, and every class that a class line declares can be named
by a constructor line.

## Main results

- `Line.classify_class_iff`: which keys class lines declare
- `constructorShape?_isSome_iff`: what is a constructor line
- `Line.classify_constructor_of_ok`: what a constructor line declares
- `constructor_lines_name_class`: constructor lines name the class that they construct
-/

namespace DocPages

/-! ## §1 Class lines -/

/-- The keys that class lines declare are the class keys. -/
theorem Line.classify_class_iff {key : Bytes} :
    classify (bytes "class " ++ key) = .ok (classLine key) ↔ isClassKey key = true := by
  constructor
  · intro h
    have hform : (classLine key).KeyForm := classify_keyForm h
    exact hform
  · intro hkey
    have hshape : classShape? (bytes "class " ++ key) = some key :=
      classShape?_eq_some_iff.2 ⟨rfl, hkey⟩
    simp only [classify, hshape]

/-! ## §2 Constructor lines -/

theorem ConstructorShape.text_eq (s : ConstructorShape) :
    s.text = s.key ++ bytes "(" ++ s.arguments ++ bytes ")" := by
  simp [ConstructorShape.text, bytes_parenthesis]

/-- A line is a constructor line when it is a constructor key and arguments in parentheses. -/
theorem constructorShape?_isSome_iff {line : Bytes} :
    (constructorShape? line).isSome ↔
      ∃ key classKey arguments, line = key ++ bytes "(" ++ arguments ++ bytes ")" ∧
        ConstructorKey key classKey ∧ byte ')' ∉ arguments := by
  rw [Option.isSome_iff_exists]
  constructor
  · rintro ⟨s, hs⟩
    obtain ⟨hline, hkey, hclosing⟩ := constructorShape?_eq_some_iff.1 hs
    exact ⟨s.key, s.classKey, s.arguments, hline.trans s.text_eq, hkey, hclosing⟩
  · rintro ⟨key, classKey, arguments, hline, hkey, hclosing⟩
    refine ⟨⟨key, classKey, arguments⟩, constructorShape?_eq_some_iff.2 ⟨?_, hkey, hclosing⟩⟩
    rw [hline, ConstructorShape.text_eq]

/-- A constructor line with readable arguments declares a constructor that results in its class. -/
theorem Line.classify_constructor_of_ok {line : Bytes} {s : ConstructorShape} {ps : List Parameter}
    (hs : constructorShape? line = some s) (hps : parseArguments s.arguments = .ok ps) :
    classify line = .ok (constructorLine ⟨s.key, s.classKey, ps, [s.classKey]⟩) := by
  have hd : s.declaration = .ok ⟨s.key, s.classKey, ps, [s.classKey]⟩ :=
    ConstructorShape.declaration_eq_ok_iff.2 ⟨hps, rfl, rfl, rfl⟩
  rw [classify_constructor hs, hd]
  rfl

/-! ## §3 The class of a constructor line -/

/-- **Both forms of constructor name the right class.**  A line has the shape of a constructor iff it is
    a constructor key and arguments in parentheses.  With readable arguments it declares a constructor:
    its key is `new K` for the class `K`, or a factory key for the class that is left without the last
    fitting `create`; it results in that class, which is one that a class line can declare.  Conversely,
    `new K()` names `K` for every `K` that a class line declares. -/
theorem constructor_lines_name_class :
    (∀ line, (constructorShape? line).isSome ↔
      ∃ key classKey arguments, line = key ++ bytes "(" ++ arguments ++ bytes ")" ∧
        ConstructorKey key classKey ∧ byte ')' ∉ arguments) ∧
    (∀ line s ps, constructorShape? line = some s → parseArguments s.arguments = .ok ps →
      ∃ d : Declaration, Line.classify line = .ok (.constructorLine d) ∧
        line = d.key ++ bytes "(" ++ s.arguments ++ bytes ")" ∧ d.parameters = ps ∧
        (d.key = bytes "new " ++ d.classKey ∨
          ∃ before name, FactoryForm d.key before name ∧ d.classKey = before ++ name) ∧
        d.returns = [d.classKey] ∧
        Line.classify (bytes "class " ++ d.classKey) = .ok (.classLine d.classKey)) ∧
    (∀ key, Line.classify (bytes "class " ++ key) = .ok (.classLine key) →
      Line.classify (bytes "new " ++ key ++ bytes "()") =
        .ok (.constructorLine ⟨bytes "new " ++ key, key, [], [key]⟩)) := by
  refine ⟨fun line => constructorShape?_isSome_iff, ?_, ?_⟩
  · intro line s ps hs hps
    obtain ⟨hline, hkey, -⟩ := constructorShape?_eq_some_iff.1 hs
    refine ⟨_, Line.classify_constructor_of_ok hs hps, hline.trans s.text_eq, rfl, ?_, rfl, ?_⟩
    · exact hkey.imp And.left id
    · exact Line.classify_class_iff.2 hkey.isClassKey
  · intro key hclass
    let s : ConstructorShape := ⟨bytes "new " ++ key, key, []⟩
    have hkey : ConstructorKey s.key s.classKey := Or.inl ⟨rfl, Line.classify_class_iff.1 hclass⟩
    have hline : bytes "new " ++ key ++ bytes "()" = s.text := by
      rw [ConstructorShape.text_eq, List.append_nil, List.append_assoc _ (bytes "(")]
      rfl
    have hs : constructorShape? (bytes "new " ++ key ++ bytes "()") = some s :=
      constructorShape?_eq_some_iff.2 ⟨hline, hkey, by simp [s]⟩
    exact Line.classify_constructor_of_ok hs rfl

/-- A factory key with three `create`s.  The first two are followed by a capitalised name up to the end,
    and the second of them is taken out. -/
theorem factory_cut_at_last_fitting_create :
    let line := bytes "ns.createFoocreateTextInputcreate(a[, b = 1])"
    let s : ConstructorShape := ⟨bytes "ns.createFoocreateTextInputcreate",
      bytes "ns.createFooTextInputcreate", bytes "a[, b = 1]"⟩
    constructorShape? line = some s ∧
      ∃ d : Declaration, Line.classify line = .ok (.constructorLine d) ∧
        d.classKey = bytes "ns.createFooTextInputcreate" ∧ d.returns = [d.classKey] ∧
        Line.classify (bytes "class " ++ d.classKey) = .ok (.classLine d.classKey) := by
  intro line s
  have hs : constructorShape? line = some s := by decide
  have hps : parseArguments s.arguments =
      .ok [⟨bytes "a", true, []⟩, ⟨bytes "b", false, bytes "1"⟩] := by decide
  obtain ⟨d, hd, -, -, -, hreturns, hclass⟩ := constructor_lines_name_class.2.1 line s _ hs hps
  refine ⟨hs, d, hd, ?_, hreturns, hclass⟩
  rw [Line.classify_constructor_of_ok hs hps] at hd
  cases hd
  rfl

end DocPages
