import DocPages.Proofs.CharacterReferences
import DocPages.Proofs.LineShapes
import DocPages.Proofs.SessionRun

/-!
# Declarations Read Back From Pages

A page shows the signature of a constructor or method.  The key, the arguments in the signature's
markup and the result types make up a line again, and that line is read as the very declaration that
the page is about.

The line differs from the one that was written in its argument list and its result types only.  So
the same shape has to be recognised: no earlier shape may begin to fit, and the call has to be cut at
the same parenthesis.  Both follow from what `Marks` says about the two argument lists.

## Main results

- `argumentsSpan?_signatureMarkup`: the arguments in the markup of a signature
- `MethodShape.WellFormed.rewritten`: a method line keeps its shape
- `HasCall.of_shown`, `instanceMethodShape?_rewritten`: a class method line does not become one of an
  instance method
- `declaration_round_trip`: the declaration is read back
-/

namespace DocPages

open Html (escape decodeReferences)

/-! ## §1 The arguments in the markup -/

/-- The contents of the span that holds the arguments of a signature. -/
def argumentsSpan? (markup : Bytes) : Option Bytes := do
  let (_, rest) ← Bytes.cutFirst? (bytes "<span class=\"arguments\">") markup
  let (inner, _) ← Bytes.cutFirst? (bytes "</span>") rest
  return inner

/-- The span holds the escaped text of the arguments: no text before it, and none inside it, can open
    or close a tag. -/
theorem argumentsSpan?_signatureMarkup (t : Tree) {e : Entity} {sig : Signature}
    (h : e.signature? = some sig) :
    argumentsSpan? (t.signatureMarkup e) = some (escape sig.argumentsText) := by
  have hspan : bytes "<span class=\"arguments\">" = byte '<' :: bytes "span class=\"arguments\">" := by
    decide
  have hclose : bytes "</span>" = byte '<' :: bytes "/span>" := by decide
  obtain ⟨tail, hmarkup⟩ : ∃ tail, t.signatureMarkup e =
      byte '<' :: ((bytes "span class=\"key\">" ++ escape e.key) ++
        byte '<' :: (bytes "/span>(" ++
          byte '<' :: (bytes "span class=\"arguments\">" ++
            (escape sig.argumentsText ++ byte '<' :: (bytes "/span>" ++ tail))))) := by
    refine ⟨bytes ")" ++ t.returnsMarkup sig.returns ++ Tree.aliasMarkup e, ?_⟩
    simp only [Tree.signatureMarkup, h, List.append_assoc]
    rfl
  have hkey : byte '<' ∉ bytes "span class=\"key\">" ++ escape e.key := by
    intro hmem
    rcases List.mem_append.1 hmem with hmem | hmem
    · exact absurd hmem (by decide)
    · exact Html.notMem_escape _ hmem
  have hfirst : ∃ before, Bytes.cutFirst? (bytes "<span class=\"arguments\">") (t.signatureMarkup e) =
      some (before, escape sig.argumentsText ++ byte '<' :: (bytes "/span>" ++ tail)) := by
    -- two tags stand before the span, and neither begins like it
    rw [hmarkup, hspan, Bytes.cutFirst?_cons_of_dropPrefix?_eq_none rfl,
      Bytes.cutFirst?_append_of_notMem hkey, Bytes.cutFirst?_cons_of_dropPrefix?_eq_none rfl,
      Bytes.cutFirst?_append_of_notMem (by decide), Bytes.cutFirst?_self_append]
    exact ⟨_, rfl⟩
  have hsecond : Bytes.cutFirst? (bytes "</span>")
      (escape sig.argumentsText ++ byte '<' :: (bytes "/span>" ++ tail)) =
        some (escape sig.argumentsText, tail) := by
    rw [hclose, Bytes.cutFirst?_append_of_notMem (Html.notMem_escape _), Bytes.cutFirst?_self_append]
    simp
  obtain ⟨before, hfirst⟩ := hfirst
  simp [argumentsSpan?, hfirst, hsecond]

/-! ## §2 The line behind a page -/

namespace Line

/-- The line with a key, an argument list and result types as a page shows them. -/
def written (arguments : Bytes) : Line → Bytes
  | constructorLine d => d.key ++ bytes "(" ++ arguments ++ bytes ")"
  | instanceMethodLine d | classMethodLine d =>
    d.key ++ bytes "(" ++ arguments ++ bytes ") -> " ++ Bytes.join (bytes " | ") d.returns
  | _ => []

end Line

/-! ## §3 Method lines keep their shape -/

namespace MethodShape

/-- The parts of a method line as a page shows them. -/
def rewritten (s : MethodShape) (d : Declaration) : MethodShape :=
  ⟨s.owner, s.name, writeArguments true false (Session.numberArguments 0 d.parameters),
    Bytes.join (bytes " | ") d.returns⟩

theorem WellFormed.rewritten {mark : UInt8} (hmark : isMark mark = true) (hne : mark ≠ byte '(')
    {s : MethodShape} (hs : s.WellFormed mark) {d : Declaration}
    (harguments : parseArguments s.arguments = .ok d.parameters)
    (hreturns : parseTypes s.returns = .ok d.returns) : (s.rewritten d).WellFormed mark := by
  obtain ⟨howner, hname, ⟨hname_bytes, hargument_bytes, hreturn_bytes, -⟩, hopens⟩ := hs
  obtain ⟨htypes_ne, htypes⟩ := parseTypes_eq_ok hreturns
  refine ⟨howner, hname, ⟨hname_bytes, ?_, ?_, ?_⟩, ?_⟩
  · exact notMem_writeArguments (by decide) harguments hargument_bytes
  · intro hmem
    rcases Bytes.mem_join hmem with hmem | ⟨t, ht, hmem⟩
    · exact absurd hmem (by decide)
    · exact hreturn_bytes ((htypes t ht).2.2 _ hmem).1
  · obtain ⟨t, types, hlist⟩ := List.exists_cons_of_ne_nil htypes_ne
    have ht : t ≠ [] := (htypes t (by simp [hlist])).1
    simp [MethodShape.rewritten, hlist, Bytes.join_cons, ht]
  · exact fun h => hopens (h.of_writeArguments hmark hne harguments)

theorem declaration_rewritten {mark : Bytes} {s : MethodShape} {d : Declaration}
    (h : s.declaration mark = .ok d) : (s.rewritten d).declaration mark = .ok d := by
  rw [declaration_eq_ok_iff] at h ⊢
  obtain ⟨harguments, hreturns, hkey, hclass⟩ := h
  exact ⟨parseArguments_writeArguments harguments, parseTypes_join hreturns, hkey, hclass⟩

end MethodShape

/-- Where a call can be cut out of the text that a page shows, one can be cut out of the original: at
    the same number sign of the key, or at the first one of the arguments. -/
theorem HasCall.of_shown {key arguments shown : Bytes}
    (hopens : Opens (byte '#') shown → Opens (byte '#') arguments)
    (hcalls : Calls shown → Calls arguments) (hclosing : byte ')' ∉ arguments)
    (h : HasCall (key ++ byte '(' :: shown)) : HasCall (key ++ byte '(' :: arguments) := by
  obtain ⟨owner, name, rest, htext, howner_ne, howner, hname_ne, hname, hrest⟩ := h
  have hcut : key ++ byte '(' :: shown = (owner ++ byte '#' :: name) ++ byte '(' :: rest := by
    simpa using htext
  rcases List.append_eq_append_iff.1 hcut with ⟨w, hw, hshown⟩ | ⟨w, rfl, hrest_eq⟩
  · cases w with
    | nil =>
      -- the parenthesis is the one behind the key
      obtain rfl : key = owner ++ byte '#' :: name := by simpa using hw.symm
      exact ⟨owner, name, arguments, by simp, howner_ne, howner, hname_ne, hname, hclosing⟩
    | cons c w =>
      obtain ⟨rfl, rfl⟩ := List.cons.inj hshown
      rcases List.append_eq_append_iff.1 hw.symm with ⟨v, rfl, hv⟩ | ⟨v, rfl, hv⟩
      · cases v with
        | nil => exact absurd (List.cons.inj hv).1 (by decide)
        | cons c v =>
          -- the number sign is the first one of the arguments
          obtain ⟨rfl, rfl⟩ := List.cons.inj hv
          obtain ⟨c, name, rfl⟩ := List.exists_cons_of_ne_nil hname_ne
          simp only [List.mem_append, List.mem_cons, not_or] at howner hname
          obtain ⟨x, c', y, rfl, hx, hc', n, r, rfl, hn⟩ : Calls arguments :=
            hcalls ⟨v, c, name ++ byte '(' :: rest, by simp, howner.2.2, Ne.symm hname.1,
              name, rest, rfl, hname.2⟩
          refine ⟨key ++ byte '(' :: x, c' :: n, r, by simp, by simp, ?_, by simp, ?_, ?_⟩
          · simp [howner.1, hx, show byte '#' ≠ byte '(' by decide]
          · simp [Ne.symm hc', hn]
          · exact fun hmem => hclosing (by simp [hmem])
      · cases v with
        | nil => exact absurd (List.cons.inj hv).1 (by decide)
        | cons c v =>
          obtain ⟨rfl, rfl⟩ := List.cons.inj hv
          cases v with
          | nil =>
            -- the number sign ends the key, so the name begins with the parenthesis behind it
            have hw : byte '#' ∉ w := fun hmem => hname (by simp [hmem])
            obtain ⟨x, y, rfl, hx⟩ : Opens (byte '#') arguments := hopens ⟨w, rest, rfl, hw⟩
            refine ⟨owner, byte '(' :: x, y, by simp, howner_ne, howner, by simp, ?_, ?_⟩
            · simp [hx, show byte '#' ≠ byte '(' by decide]
            · exact fun hmem => hclosing (by simp [hmem])
          | cons c v =>
            -- a part of the key stands behind the number sign, and is name enough
            exact ⟨owner, c :: v, arguments, by simp, howner_ne, howner, by simp,
              fun hmem => hname (List.mem_append_left _ hmem), hclosing⟩
  · cases w with
    | nil => exact ⟨owner, name, arguments, by simp, howner_ne, howner, hname_ne, hname, hclosing⟩
    | cons c w =>
      -- the parenthesis stands in the key
      obtain ⟨rfl, rfl⟩ := List.cons.inj hrest_eq
      refine ⟨owner, name, w ++ byte '(' :: arguments, by simp, howner_ne, howner, hname_ne, hname, ?_⟩
      rw [List.mem_append, List.mem_cons]
      rintro (hmem | hmem | hmem)
      · exact hrest (List.mem_append_left _ hmem)
      · exact absurd hmem (by decide)
      · exact hclosing hmem

/-- A class method line that is no instance method line does not become one. -/
theorem instanceMethodShape?_rewritten {s : MethodShape} (hs : s.WellFormed (byte '.'))
    {d : Declaration} (harguments : parseArguments s.arguments = .ok d.parameters)
    (hreturns : parseTypes s.returns = .ok d.returns)
    (h : instanceMethodShape? (s.text (byte '.')) = none) :
    instanceMethodShape? ((s.rewritten d).text (byte '.')) = none := by
  have hs' := hs.rewritten (by decide) (by decide) harguments hreturns
  have htext : ∀ t : MethodShape, t.text (byte '.') =
      callText (t.owner ++ byte '.' :: t.name) t.arguments t.returns := by
    intro t
    simp [MethodShape.text, callText]
  rw [htext, instanceMethodShape?_eq_none_iff hs.callable.returns_bytes hs.callable.returns_ne_nil] at h
  rw [htext, instanceMethodShape?_eq_none_iff hs'.callable.returns_bytes hs'.callable.returns_ne_nil]
  intro hshown
  exact h (hshown.of_shown (fun h => h.of_writeArguments (by decide) (by decide) harguments)
    (fun h => h.of_writeArguments harguments) hs.callable.arguments_bytes)

/-! ## §4 The round trip -/

namespace Line

/-- The parts of a method, written one after the other. -/
theorem rewritten_text (s : MethodShape) {mark : UInt8} {d : Declaration}
    (hkey : d.key = s.owner ++ [mark] ++ s.name) :
    (s.rewritten d).text mark =
      d.key ++ bytes "(" ++ writeArguments true false (Session.numberArguments 0 d.parameters) ++
        bytes ") -> " ++ Bytes.join (bytes " | ") d.returns := by
  have hclose : bytes ") -> " = byte ')' :: bytes " -> " := by decide
  simp [MethodShape.text, callText, MethodShape.rewritten, hkey, bytes_parenthesis, hclose]

/-- The line behind a page is read as the line that the page is about. -/
theorem classify_written {text : Bytes} {l : Line} {d : Declaration} (h : classify text = .ok l)
    (hd : l.declaration? = some d) :
    classify (l.written (writeArguments true false (Session.numberArguments 0 d.parameters))) =
      .ok l := by
  rcases classify_cases h with ⟨key, -, rfl⟩ | ⟨s, d', hshape, hdecl, rfl⟩ |
    ⟨s, d', hshape, hdecl, rfl⟩ | ⟨s, d', hnone, hshape, hdecl, rfl⟩ | ⟨-, n, -, -, rfl⟩ | rfl
  · simp [declaration?] at hd
  · -- a constructor: its key holds no parenthesis, so it ends where it ended
    obtain rfl := Option.some.inj hd
    obtain ⟨-, hkey, hclosing⟩ := constructorShape?_eq_some_iff.1 hshape
    obtain ⟨harguments, hd_key, hd_class, hd_returns⟩ :=
      ConstructorShape.declaration_eq_ok_iff.1 hdecl
    let shown : ConstructorShape :=
      ⟨s.key, s.classKey, writeArguments true false (Session.numberArguments 0 d'.parameters)⟩
    have hline : (constructorLine d').written shown.arguments = shown.text := by
      simp [written, ConstructorShape.text, hd_key, bytes_parenthesis, shown]
    have hshown : constructorShape? shown.text = some shown :=
      constructorShape?_eq_some_iff.2
        ⟨rfl, hkey, notMem_writeArguments (by decide) harguments hclosing⟩
    have hdecl' : shown.declaration = .ok d' :=
      ConstructorShape.declaration_eq_ok_iff.2
        ⟨parseArguments_writeArguments harguments, hd_key, hd_class, hd_returns⟩
    rw [hline, classify_constructor hshown, hdecl']
    rfl
  · -- an instance method: its owner ends at the first number sign, which is not in the arguments
    obtain rfl := Option.some.inj hd
    obtain ⟨-, hs, howner⟩ := instanceMethodShape?_eq_some_iff.1 hshape
    obtain ⟨harguments, hreturns, hkey, -⟩ := MethodShape.declaration_eq_ok_iff.1 hdecl
    have hs' := hs.rewritten (by decide) (by decide) harguments hreturns
    have hshown : instanceMethodShape? ((s.rewritten d').text (byte '#')) = some (s.rewritten d') :=
      instanceMethodShape?_eq_some_iff.2 ⟨rfl, hs', howner⟩
    have hline : (s.rewritten d').text (byte '#') = _ := rewritten_text s hkey
    rw [written, ← hline, classify_instanceMethod hshown, MethodShape.declaration_rewritten hdecl]
    rfl
  · -- a class method: the shape of an instance method comes first, and must go on to fail
    obtain rfl := Option.some.inj hd
    obtain ⟨rfl, hs, howner⟩ := classMethodShape?_eq_some_iff.1 hshape
    obtain ⟨harguments, hreturns, hkey, -⟩ := MethodShape.declaration_eq_ok_iff.1 hdecl
    have hs' := hs.rewritten (by decide) (by decide) harguments hreturns
    have hshown : classMethodShape? ((s.rewritten d').text (byte '.')) = some (s.rewritten d') :=
      classMethodShape?_eq_some_iff.2 ⟨rfl, hs', howner⟩
    have hinstance := instanceMethodShape?_rewritten hs harguments hreturns hnone
    have hline : (s.rewritten d').text (byte '.') = _ := rewritten_text s hkey
    rw [written, ← hline, classify_classMethod hinstance hshown, MethodShape.declaration_rewritten hdecl]
    rfl
  · simp [declaration?] at hd
  · simp [declaration?] at hd

end Line

namespace Session

theorem newEntity_signature? (s : Session) {l : Line} {d : Declaration}
    (hd : l.declaration? = some d) (source : Bytes) (number : Nat) (key : Bytes) :
    (s.newEntity l source number key).signature? = some (signature s.tree d (s.ownerFor l)) := by
  cases l with
  | prose _ => simp [Line.declaration?] at hd
  | classLine _ => simp [Line.declaration?] at hd
  | noteLine _ => simp [Line.declaration?] at hd
  | constructorLine _ => obtain rfl := Option.some.inj hd; rfl
  | instanceMethodLine _ => obtain rfl := Option.some.inj hd; rfl
  | classMethodLine _ => obtain rfl := Option.some.inj hd; rfl

end Session

/-- What a page says about a declaration is enough to read the declaration back: the key, the
    arguments taken from the markup of the signature, and the result types make up a line that is
    read as the same kind of declaration, with the same key, class, arguments and result types. -/
theorem declaration_round_trip {text : Bytes} {l : Line} {d : Declaration}
    (h : Line.classify text = .ok l) (hd : l.declaration? = some d) (s : Session) (source : Bytes)
    (number : Nat) (t : Tree) :
    ∃ span, argumentsSpan? (t.signatureMarkup (s.newEntity l source number d.key)) = some span ∧
      Line.classify (l.written (decodeReferences false span)) = .ok l := by
  have hsignature := s.newEntity_signature? hd source number d.key
  refine ⟨_, argumentsSpan?_signatureMarkup t hsignature, ?_⟩
  rw [Html.decodeReferences_escape]
  exact Line.classify_written h hd

/-- A class method whose name holds a parenthesis, with the marks of a call in its first argument, a
    default behind spaces and one with markup: a page shows the line as
    `ns.Foo.bar(x(a.#(b, c =   d[, e = "<&>", f]) -> Foo | Bar`. -/
theorem class_method_round_trip :
    let text := bytes "ns.Foo.bar(x(a.#(b ,c  d[,e = \"<&>\" ,f]) -> Foo|  Bar"
    let d : Declaration := ⟨bytes "ns.Foo.bar(x", bytes "ns.Foo",
      [⟨bytes "a.#(b", true, []⟩, ⟨bytes "c", true, bytes "  d"⟩,
        ⟨bytes "e", false, bytes "\"<&>\""⟩, ⟨bytes "f", false, []⟩],
      [bytes "Foo", bytes "Bar"]⟩
    Line.classify text = .ok (.classMethodLine d) ∧
      ∃ span, argumentsSpan? (Tree.empty.signatureMarkup
          (Session.start.newEntity (.classMethodLine d) (bytes "a.js") 1 d.key)) = some span ∧
        Line.classify ((Line.classMethodLine d).written (decodeReferences false span)) =
          .ok (.classMethodLine d) := by
  intro text d
  have h : Line.classify text = .ok (.classMethodLine d) := by decide +kernel
  exact ⟨h, declaration_round_trip h rfl Session.start (bytes "a.js") 1 Tree.empty⟩

end DocPages
