import DocPages.Proofs.LineShapes

/-!
# How Method Lines Are Cut

A method line is an owner, a mark, and a call with its result.  The name, the arguments and the result
may hold parentheses, arrows and marks of their own, so one line can often be put together from such
parts in several ways.  All of these ways have the same owner; they differ in where the name ends.  A
line is read with the longest name.

The two kinds of method line differ in the mark and in the bytes that an owner may hold, so both are
instances of one notion of a cut.

## Main results

- `MethodShape.Cuts`: one way to put a method line together
- `MethodShape.Cuts.owner_eq_of_hash`, `MethodShape.Cuts.owner_eq_of_dot`: all ways have one owner
- `instanceMethodShape?_eq_some_iff_cuts`, `classMethodShape?_eq_some_iff_cuts`: what the recognisers find
- `MethodShape.declaration_of_ok`, `MethodShape.declaration_of_error`: what is read from the parts
- `method_lines_split_exactly`: both kinds of method line are recognised, cut and read exactly
-/

namespace DocPages

/-! ## §1 Cuts -/

namespace MethodShape

/-- The line can be put together from these parts: an owner of allowed bytes, the mark, a name without
    the mark, and the arguments and the result of a call.  Owner, name and result are not empty. -/
structure Cuts (mark : UInt8) (ok : UInt8 → Bool) (line : Bytes) (s : MethodShape) : Prop where
  line_eq : line = s.text mark
  owner_ne_nil : s.owner ≠ []
  owner_bytes : ∀ b ∈ s.owner, ok b = true
  name_ne_nil : s.name ≠ []
  callable : Callable mark s.name s.arguments s.returns

namespace Cuts

variable {mark : UInt8} {ok : UInt8 → Bool} {line : Bytes} {s t : MethodShape}

/-- The owner of an instance method ends at the first number sign of the line. -/
theorem owner_eq_of_hash (hs : s.Cuts (byte '#') (· != byte '#') line)
    (ht : t.Cuts (byte '#') (· != byte '#') line) : s.owner = t.owner := by
  have hfirst : ∀ {u : MethodShape}, u.Cuts (byte '#') (· != byte '#') line →
      Bytes.cutFirst? [byte '#'] line = some (u.owner, callText u.name u.arguments u.returns) := by
    intro u hu
    apply Bytes.cutFirst?_byte_eq_some_iff.2
    exact ⟨hu.line_eq, fun hmem => by simpa using hu.owner_bytes _ hmem⟩
  have heq := (hfirst hs).symm.trans (hfirst ht)
  exact (Prod.mk.inj (Option.some.inj heq)).1

/-- The owner of a class method ends at the last dot of the letters and dots that open the line. -/
theorem owner_eq_of_dot (hs : s.Cuts (byte '.') isKeyByte line) (ht : t.Cuts (byte '.') isKeyByte line) :
    s.owner = t.owner := by
  have hlast : ∀ {u : MethodShape}, u.Cuts (byte '.') isKeyByte line →
      ∃ start, Bytes.cutLast? [byte '.'] (line.takeWhile isKeyByte) = some (u.owner, start) := by
    intro u hu
    obtain ⟨start, hcut, -⟩ := cutLast?_takeWhile_text hu.owner_bytes hu.callable.name_bytes
    exact ⟨start, hu.line_eq ▸ hcut⟩
  obtain ⟨start, hstart⟩ := hlast hs
  obtain ⟨start', hstart'⟩ := hlast ht
  have heq := hstart.symm.trans hstart'
  exact (Prod.mk.inj (Option.some.inj heq)).1

/-- Among the cuts with one owner, the one whose arguments open no further call has the longest name,
    and no other has a name of that length. -/
theorem longest (hs : s.Cuts mark ok line) (hopens : ¬Opens mark s.arguments)
    (ht : t.Cuts mark ok line) (howner : t.owner = s.owner) :
    t = s ∨ t.name.length < s.name.length := by
  have htext : t.text mark = s.text mark := ht.line_eq.symm.trans hs.line_eq
  rw [MethodShape.text, MethodShape.text, howner] at htext
  have hcall := (List.cons.inj (List.append_cancel_left htext)).2
  rcases hs.callable.longest hopens ht.callable hcall with ⟨hname, harguments, hreturns⟩ | hlt
  · left
    cases s
    cases t
    simp_all
  · exact Or.inr hlt

/-- A line that can be cut can be cut at the longest name. -/
theorem exists_longest (hmark : mark ≠ byte '(') (hs : s.Cuts mark ok line) :
    ∃ t : MethodShape, t.Cuts mark ok line ∧ ¬Opens mark t.arguments := by
  obtain ⟨n, a, r, hcall, hcallable, hopens, hlength⟩ := hs.callable.exists_longest hmark
  have hn : n ≠ [] := by
    apply List.ne_nil_of_length_pos
    exact (List.length_pos_iff.2 hs.name_ne_nil).trans_le hlength
  have hline : line = (⟨s.owner, n, a, r⟩ : MethodShape).text mark := by
    rw [hs.line_eq, MethodShape.text, hcall]
    rfl
  exact ⟨⟨s.owner, n, a, r⟩, ⟨hline, hs.owner_ne_nil, hs.owner_bytes, hn, hcallable⟩, hopens⟩

end Cuts

end MethodShape

theorem instanceMethodShape?_eq_some_iff_cuts {line : Bytes} {s : MethodShape} :
    instanceMethodShape? line = some s ↔
      s.Cuts (byte '#') (· != byte '#') line ∧ ¬Opens (byte '#') s.arguments := by
  rw [instanceMethodShape?_eq_some_iff]
  constructor
  · rintro ⟨hline, ⟨howner_ne, hname_ne, hcallable, hopens⟩, howner⟩
    refine ⟨⟨hline, howner_ne, fun b hb => ?_, hname_ne, hcallable⟩, hopens⟩
    simp only [bne_iff_ne]
    rintro rfl
    exact howner hb
  · rintro ⟨⟨hline, howner_ne, howner, hname_ne, hcallable⟩, hopens⟩
    exact ⟨hline, ⟨howner_ne, hname_ne, hcallable, hopens⟩, fun hmem => by simpa using howner _ hmem⟩

theorem classMethodShape?_eq_some_iff_cuts {line : Bytes} {s : MethodShape} :
    classMethodShape? line = some s ↔
      s.Cuts (byte '.') isKeyByte line ∧ ¬Opens (byte '.') s.arguments := by
  rw [classMethodShape?_eq_some_iff]
  constructor
  · rintro ⟨hline, ⟨howner_ne, hname_ne, hcallable, hopens⟩, howner⟩
    exact ⟨⟨hline, howner_ne, howner, hname_ne, hcallable⟩, hopens⟩
  · rintro ⟨⟨hline, howner_ne, howner, hname_ne, hcallable⟩, hopens⟩
    exact ⟨hline, ⟨howner_ne, hname_ne, hcallable, hopens⟩, howner⟩

/-! ## §2 What is read from the parts -/

namespace MethodShape

variable {s : MethodShape}

theorem declaration_of_ok (mark : Bytes) {ps : List Parameter} {types : List Bytes}
    (hps : parseArguments s.arguments = .ok ps) (htypes : parseTypes s.returns = .ok types) :
    s.declaration mark = .ok ⟨s.owner ++ mark ++ s.name, s.owner, ps, types⟩ :=
  declaration_eq_ok_iff.2 ⟨hps, htypes, rfl, rfl⟩

/-- Nothing is read when the arguments or the types cannot be read. -/
theorem declaration_of_error (mark : Bytes)
    (h : ¬∃ ps types, parseArguments s.arguments = .ok ps ∧ parseTypes s.returns = .ok types) :
    ∃ e, s.declaration mark = .error e := by
  cases hd : s.declaration mark with
  | error e => exact ⟨e, rfl⟩
  | ok d =>
    obtain ⟨hps, htypes, -, -⟩ := declaration_eq_ok_iff.1 hd
    exact absurd ⟨_, _, hps, htypes⟩ h

end MethodShape

/-! ## §3 Both kinds of method line -/

/-- One kind of method line is recognised, cut and read exactly. -/
structure SplitsExactly (shape? : Bytes → Option MethodShape) (mark : UInt8) (ok : UInt8 → Bool)
    (make : Declaration → Line) (line : Bytes) : Prop where
  /-- A line has the shape when it can be put together from such parts. -/
  recognised : (shape? line).isSome ↔ ∃ s : MethodShape, s.Cuts mark ok line
  /-- However it is put together, the owner is the same. -/
  owner_unique : ∀ s t : MethodShape, s.Cuts mark ok line → t.Cuts mark ok line → s.owner = t.owner
  /-- The parts that are found are the ones with the longest name. -/
  longest : ∀ s, shape? line = some s → s.Cuts mark ok line ∧
    ∀ t : MethodShape, t.Cuts mark ok line → t = s ∨ t.name.length < s.name.length
  /-- Arguments and types that can be read make up the declaration. -/
  accepted : ∀ s ps types, shape? line = some s → parseArguments s.arguments = .ok ps →
    parseTypes s.returns = .ok types →
      Line.classify line = .ok (make ⟨s.owner ++ [mark] ++ s.name, s.owner, ps, types⟩)
  /-- When either cannot be read, the line is refused as a malformed signature. -/
  refused : ∀ s, shape? line = some s →
    (¬∃ ps types, parseArguments s.arguments = .ok ps ∧ parseTypes s.returns = .ok types) →
      ∃ e detail, Line.classify line = .error e ∧ e.message = bytes "malformed signature: " ++ detail

/-- A recogniser that finds the cuts at the longest name, all with one owner, and whose parts are what
    the line is read from, splits exactly. -/
theorem SplitsExactly.of_cuts {shape? : Bytes → Option MethodShape} {mark : UInt8}
    {ok : UInt8 → Bool} {make : Declaration → Line} {line : Bytes} (hmark : mark ≠ byte '(')
    (hshape : ∀ s, shape? line = some s ↔ s.Cuts mark ok line ∧ ¬Opens mark s.arguments)
    (howner : ∀ s t : MethodShape, s.Cuts mark ok line → t.Cuts mark ok line → s.owner = t.owner)
    (hclassify : ∀ s, shape? line = some s → Line.classify line = (s.declaration [mark]).map make) :
    SplitsExactly shape? mark ok make line where
  recognised := by
    rw [Option.isSome_iff_exists]
    constructor
    · rintro ⟨s, hs⟩
      exact ⟨s, ((hshape s).1 hs).1⟩
    · rintro ⟨s, hs⟩
      obtain ⟨t, ht, hopens⟩ := hs.exists_longest hmark
      exact ⟨t, (hshape t).2 ⟨ht, hopens⟩⟩
  owner_unique := howner
  longest := by
    intro s hs
    obtain ⟨hcuts, hopens⟩ := (hshape s).1 hs
    exact ⟨hcuts, fun t ht => hcuts.longest hopens ht (howner t s ht hcuts)⟩
  accepted := by
    intro s ps types hs hps htypes
    rw [hclassify s hs, MethodShape.declaration_of_ok [mark] hps htypes]
    rfl
  refused := by
    intro s hs hnone
    obtain ⟨e, he⟩ := MethodShape.declaration_of_error [mark] hnone
    obtain ⟨detail, hdetail⟩ := e.message_eq
    refine ⟨e, detail, ?_, hdetail⟩
    rw [hclassify s hs, he]
    rfl

/-- **Method lines are split exactly.**  A line has the shape of an instance method iff it can be written
    `C#N(A) -> R`, with `C` and `N` not empty and without `#`, `A` without `)`, and `R` not empty and
    without `)`.  Any other line has the shape of a class method iff it can be written `C.N(A) -> R`,
    with `C` letters and dots and not empty, and `N` not empty and without a dot.  In both cases all ways
    to write it have the same `C`, the one with the longest `N` is taken, and from it the line is read:
    as the declaration of `C#N` or `C.N` in the class `C` with the arguments of `A` and the types of `R`,
    or, when these cannot be read, not at all.

    Nothing has to be said about the shapes that are tried before: no line that can be written so has one
    of them. -/
theorem method_lines_split_exactly (line : Bytes) :
    SplitsExactly instanceMethodShape? (byte '#') (· != byte '#') .instanceMethodLine line ∧
      (instanceMethodShape? line = none →
        SplitsExactly classMethodShape? (byte '.') isKeyByte .classMethodLine line) := by
  constructor
  · apply SplitsExactly.of_cuts (by decide)
    · exact fun s => instanceMethodShape?_eq_some_iff_cuts
    · exact fun s t hs ht => hs.owner_eq_of_hash ht
    · exact fun s hs => Line.classify_instanceMethod hs
  · intro hinstance
    apply SplitsExactly.of_cuts (by decide)
    · exact fun s => classMethodShape?_eq_some_iff_cuts
    · exact fun s t hs ht => hs.owner_eq_of_dot ht
    · exact fun s hs => Line.classify_classMethod hinstance hs

/-- A class method line that can be cut at two parentheses, with a dot, a parenthesis and an arrow behind
    them.  The name `c(d` is taken and not `c`; at the third parenthesis the name would hold a dot. -/
theorem class_method_cut_at_second_parenthesis :
    let line := bytes "a.b.c(d(e.f(x) -> g( -> h"
    let s : MethodShape := ⟨bytes "a.b", bytes "c(d", bytes "e.f(x", bytes "g( -> h"⟩
    let t : MethodShape := ⟨bytes "a.b", bytes "c", bytes "d(e.f(x", bytes "g( -> h"⟩
    instanceMethodShape? line = none ∧ classMethodShape? line = some s ∧
      t.Cuts (byte '.') isKeyByte line ∧
      Line.classify line = .ok (.classMethodLine
        ⟨bytes "a.b.c(d", bytes "a.b", [⟨bytes "e.f(x", true, []⟩], [bytes "g( -> h"]⟩) := by
  intro line s t
  have hinstance : instanceMethodShape? line = none := by decide
  have hshape : classMethodShape? line = some s := by decide
  have howner : t.owner.all isKeyByte = true := by decide
  have hcuts : t.Cuts (byte '.') isKeyByte line :=
    ⟨by decide, by decide, List.all_eq_true.mp howner, by decide,
      ⟨by decide, by decide, by decide, by decide⟩⟩
  have hsplit := (method_lines_split_exactly line).2 hinstance
  exact ⟨hinstance, hshape, hcuts, hsplit.accepted s _ _ hshape (by decide) (by decide)⟩

end DocPages
