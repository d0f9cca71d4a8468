import Mathlib.Data.List.Basic
import DocPages.Proofs.LineShapes

/-!
# The Precedence of Line Shapes

A line is read by the first shape that it has.  How much of that order matters is decided by which
shapes one line can have at once.  Class lines, constructor lines, class method lines and argument notes
exclude each other, and an instance method line is neither a class line nor a constructor line.  What
is left are two overlaps: in `a.b#c() -> X` the dot may stand in front of the name as well as the number
sign, and the description of a note may end like a method line.  So the shapes may be tried in every
order that keeps instance methods in front of class methods and notes, and in no other.

## Main results

- `LineKind.read?`, `LineKind.Matches`: the shapes, one for each kind of line
- `Line.classifyBy`, `Line.classifyBy_precedence`: reading in a given order
- `Line.classifyBy_of_first`: the first shape of the order that a line has decides
- `LineKind.Matches.unique`, `LineKind.Matches.of_instanceMethod`: which shapes exclude each other
- `SafeOrder.classifyBy_eq`: all safe orders read alike
- `classify_order_safe_iff`: in which orders the shapes may be tried
-/

namespace DocPages

/-! ## §1 Reading in a given order -/

namespace LineKind

/-- Reads a line by the shape of one kind, when the line has that shape.  Prose has no shape. -/
def read? (line : Bytes) : LineKind → Option (Except MalformedSignature Line)
  | prose => none
  | classLine => (classShape? line).map fun key => .ok (.classLine key)
  | constructorLine => (constructorShape? line).map fun s => s.declaration.map .constructorLine
  | instanceMethodLine =>
    (instanceMethodShape? line).map fun s => (s.declaration (bytes "#")).map .instanceMethodLine
  | classMethodLine =>
    (classMethodShape? line).map fun s => (s.declaration (bytes ".")).map .classMethodLine
  | noteLine => (noteShape? line).map fun s => s.note.map .noteLine

/-- A line has the shape of a kind. -/
def Matches (line : Bytes) (k : LineKind) : Prop := (k.read? line).isSome = true

instance (line : Bytes) (k : LineKind) : Decidable (k.Matches line) :=
  inferInstanceAs (Decidable (_ = true))

/-- The kinds that have a shape, in the order in which they are tried. -/
def precedence : List LineKind :=
  [classLine, constructorLine, instanceMethodLine, classMethodLine, noteLine]

theorem mem_precedence_of_matches {line : Bytes} {k : LineKind} (h : k.Matches line) :
    k ∈ precedence := by
  cases k with
  | prose => simp [Matches, read?] at h
  | _ => simp [precedence]

end LineKind

namespace Line

/-- Reads a line by the first kind of the order whose shape it has. -/
def classifyBy (order : List LineKind) (line : Bytes) : Except MalformedSignature Line :=
  (order.findSome? (LineKind.read? line)).getD (.ok (.prose line))

theorem classifyBy_precedence (line : Bytes) :
    classifyBy LineKind.precedence line = classify line := by
  unfold classifyBy classify
  simp only [LineKind.precedence, List.findSome?_cons, List.findSome?_nil, LineKind.read?]
  cases classShape? line with
  | some key => rfl
  | none =>
    cases constructorShape? line with
    | some s => rfl
    | none =>
      cases instanceMethodShape? line with
      | some s => rfl
      | none =>
        cases classMethodShape? line with
        | some s => rfl
        | none => cases noteShape? line <;> rfl

variable {order : List LineKind} {line : Bytes} {k k' : LineKind}

/-- The kind that comes first among those whose shape a line has decides how it is read. -/
theorem classifyBy_of_first (hk : k ∈ order) (hmatch : k.Matches line)
    (hfirst : ∀ j : LineKind, j.Matches line → order.idxOf k ≤ order.idxOf j) :
    classifyBy order line = (k.read? line).getD (.ok (.prose line)) := by
  unfold classifyBy
  congr 1
  -- the search runs down the order, and what it passes over does not match
  induction order with
  | nil => simp at hk
  | cons j rest ih =>
    by_cases hj : j = k
    · subst hj
      obtain ⟨r, hr⟩ := Option.isSome_iff_exists.1 hmatch
      simp [hr]
    · have hrest : k ∈ rest := (List.mem_cons.1 hk).resolve_left (Ne.symm hj)
      have hnone : j.read? line = none := by
        by_contra hsome
        have hle := hfirst j (Option.isSome_iff_ne_none.2 hsome)
        rw [List.idxOf_cons_ne _ hj, List.idxOf_cons_self] at hle
        omega
      rw [List.findSome?_cons, hnone]
      apply ih hrest
      intro i hi
      by_cases hij : j = i
      · subst hij
        rw [LineKind.Matches, hnone] at hi
        simp at hi
      · have hle := hfirst i hi
        rw [List.idxOf_cons_ne _ hj, List.idxOf_cons_ne _ hij] at hle
        omega

/-- A line without any of the shapes is prose in every order. -/
theorem classifyBy_of_none (hnone : ∀ j : LineKind, ¬j.Matches line) :
    classifyBy order line = .ok (.prose line) := by
  have hfind : order.findSome? (LineKind.read? line) = none := by
    apply List.findSome?_eq_none_iff.2
    intro j _
    exact Option.not_isSome_iff_eq_none.1 (hnone j)
  rw [classifyBy, hfind, Option.getD_none]

/-- Where just two shapes fit and a line is not read by the second, the first comes before it. -/
theorem idxOf_lt_of_classifyBy_ne (hk' : k' ∈ order) (hmatch' : k'.Matches line)
    (honly : ∀ j : LineKind, j.Matches line → j = k ∨ j = k')
    (hread : classifyBy order line ≠ (k'.read? line).getD (.ok (.prose line))) :
    order.idxOf k < order.idxOf k' := by
  by_contra hlt
  apply hread
  apply classifyBy_of_first hk' hmatch'
  intro j hj
  rcases honly j hj with rfl | rfl
  · exact Nat.le_of_not_lt hlt
  · exact Nat.le_refl _

end Line

/-! ## §2 Shapes that exclude each other -/

/-- A text opens with a letter or a dot. -/
def OpensWithKeyByte (line : Bytes) : Prop := ∃ b rest, line = b :: rest ∧ isKeyByte b = true

theorem OpensWithKeyByte.of_append {key : Bytes} (hne : key ≠ [])
    (hkey : ∀ b ∈ key, isKeyByte b = true) (rest : Bytes) : OpensWithKeyByte (key ++ rest) := by
  obtain ⟨b, key, rfl⟩ := List.exists_cons_of_ne_nil hne
  exact ⟨b, key ++ rest, rfl, hkey b List.mem_cons_self⟩

theorem ConstructorKey.opensWithKeyByte {key classKey : Bytes} (h : ConstructorKey key classKey)
    (rest : Bytes) : OpensWithKeyByte (key ++ rest) := by
  rcases h with ⟨rfl, -⟩ | ⟨before, name, hform, -⟩
  · exact ⟨byte 'n', bytes "ew " ++ classKey ++ rest, rfl, rfl⟩
  · apply OpensWithKeyByte.of_append _ hform.key_bytes
    -- a factory key holds at least its `create`
    rw [hform.key_eq]
    intro hnil
    obtain ⟨-, hcreate⟩ := List.append_eq_nil_iff.1 (List.append_eq_nil_iff.1 hnil).1
    exact absurd hcreate (by decide)

/-- A note opens with a dash, so it is none of the lines that open with a key. -/
theorem noteShape?_eq_none {line : Bytes} (h : OpensWithKeyByte line) : noteShape? line = none := by
  obtain ⟨b, rest, rfl, hb⟩ := h
  have hdash : byte '-' ≠ b := by
    rintro rfl
    exact absurd hb (by decide)
  have hdrop : Bytes.dropPrefix? (bytes "- ") (b :: rest) = none := if_neg hdash
  simp [noteShape?, hdrop]

namespace LineKind

/-- What tells the shapes apart: how a line opens, whether it holds a parenthesis, and how it ends. -/
def Traits (line : Bytes) : LineKind → Prop
  | prose => False
  | classLine => OpensWithKeyByte line ∧ byte '(' ∉ line
  | constructorLine =>
    OpensWithKeyByte line ∧ byte '(' ∈ line ∧ line.getLast? = some (byte ')')
  | instanceMethodLine => byte '(' ∈ line ∧ line.getLast? ≠ some (byte ')')
  | classMethodLine =>
    OpensWithKeyByte line ∧ byte '(' ∈ line ∧ line.getLast? ≠ some (byte ')')
  | noteLine => ¬OpensWithKeyByte line

namespace Matches

variable {line : Bytes} {k k' : LineKind}

theorem traits (h : k.Matches line) : k.Traits line := by
  obtain ⟨r, hr⟩ := Option.isSome_iff_exists.1 h
  cases k with
  | prose => simp [read?] at hr
  | classLine =>
    obtain ⟨key, hshape, -⟩ := Option.map_eq_some_iff.1 hr
    obtain ⟨rfl, -⟩ := classShape?_eq_some_iff.1 hshape
    refine ⟨⟨byte 'c', bytes "lass " ++ key, rfl, rfl⟩, fun hmem => ?_⟩
    rw [classShape?_eq_none hmem] at hshape
    simp at hshape
  | constructorLine =>
    obtain ⟨s, hshape, -⟩ := Option.map_eq_some_iff.1 hr
    obtain ⟨rfl, hkey, -⟩ := constructorShape?_eq_some_iff.1 hshape
    exact ⟨hkey.opensWithKeyByte _, by simp [ConstructorShape.text], s.getLast?_text⟩
  | instanceMethodLine =>
    obtain ⟨s, hshape, -⟩ := Option.map_eq_some_iff.1 hr
    obtain ⟨rfl, hs, -⟩ := instanceMethodShape?_eq_some_iff.1 hshape
    exact ⟨by simp [MethodShape.text, callText], hs.getLast?_text_ne⟩
  | classMethodLine =>
    obtain ⟨s, hshape, -⟩ := Option.map_eq_some_iff.1 hr
    obtain ⟨rfl, hs, howner⟩ := classMethodShape?_eq_some_iff.1 hshape
    exact ⟨OpensWithKeyByte.of_append hs.owner_ne_nil howner _,
      by simp [MethodShape.text, callText], hs.getLast?_text_ne⟩
  | noteLine =>
    obtain ⟨s, hshape, -⟩ := Option.map_eq_some_iff.1 hr
    intro hopens
    rw [noteShape?_eq_none hopens] at hshape
    simp at hshape

/-- Of the other four shapes a line has at most one. -/
theorem unique (hk : k ≠ instanceMethodLine) (hk' : k' ≠ instanceMethodLine) (h : k.Matches line)
    (h' : k'.Matches line) : k = k' := by
  have htraits := h.traits
  have htraits' := h'.traits
  cases k <;> cases k' <;> simp_all [Traits]

/-- A line with the shape of an instance method may only have that of a class method or of a note
    beside it. -/
theorem of_instanceMethod (h : instanceMethodLine.Matches line) (h' : k'.Matches line) :
    k' = instanceMethodLine ∨ k' = classMethodLine ∨ k' = noteLine := by
  have htraits := h.traits
  have htraits' := h'.traits
  cases k' <;> simp_all [Traits]

end Matches

end LineKind

/-! ## §3 Safe orders -/

/-- Instance methods are tried before class methods and before notes. -/
def SafeOrder (order : List LineKind) : Prop :=
  order.idxOf .instanceMethodLine < order.idxOf .classMethodLine ∧
    order.idxOf .instanceMethodLine < order.idxOf .noteLine

instance (order : List LineKind) : Decidable (SafeOrder order) :=
  inferInstanceAs (Decidable (_ ∧ _))

namespace SafeOrder

variable {order order' : List LineKind} {line : Bytes}

/-- In a safe order, no shape that an instance method line also has comes before its own. -/
theorem idxOf_le (h : SafeOrder order) (hinstance : LineKind.instanceMethodLine.Matches line)
    {j : LineKind} (hj : j.Matches line) : order.idxOf .instanceMethodLine ≤ order.idxOf j := by
  rcases hinstance.of_instanceMethod hj with rfl | rfl | rfl
  · exact Nat.le_refl _
  · exact h.1.le
  · exact h.2.le

/-- The same shape comes first in all safe orders among those that a line has. -/
theorem exists_first (hany : ∃ k : LineKind, k.Matches line) :
    ∃ k : LineKind, k.Matches line ∧ ∀ {o : List LineKind}, SafeOrder o →
      ∀ j : LineKind, j.Matches line → o.idxOf k ≤ o.idxOf j := by
  by_cases hinstance : LineKind.instanceMethodLine.Matches line
  · exact ⟨_, hinstance, fun ho j hj => ho.idxOf_le hinstance hj⟩
  · obtain ⟨k, hk⟩ := hany
    have hother : ∀ {j : LineKind}, j.Matches line → j ≠ .instanceMethodLine := by
      rintro j hj rfl
      exact hinstance hj
    -- without the shape of an instance method there is only one shape
    refine ⟨k, hk, fun _ j hj => ?_⟩
    rw [hj.unique (hother hj) (hother hk) hk]

/-- Two safe orders of the shapes read every line alike. -/
theorem classifyBy_eq (h : SafeOrder order) (h' : SafeOrder order')
    (hperm : order.Perm LineKind.precedence) (hperm' : order'.Perm LineKind.precedence) :
    Line.classifyBy order line = Line.classifyBy order' line := by
  by_cases hany : ∃ k : LineKind, k.Matches line
  · obtain ⟨k, hk, hfirst⟩ := exists_first hany
    have hmem := LineKind.mem_precedence_of_matches hk
    calc Line.classifyBy order line
        = (k.read? line).getD (.ok (.prose line)) :=
          Line.classifyBy_of_first (hperm.mem_iff.2 hmem) hk (hfirst h)
      _ = Line.classifyBy order' line :=
          (Line.classifyBy_of_first (hperm'.mem_iff.2 hmem) hk (hfirst h')).symm
  · rw [not_exists] at hany
    rw [Line.classifyBy_of_none hany, Line.classifyBy_of_none hany]

end SafeOrder

/-- An order that reads a line as an instance method has that shape in front of the other one that the
    line has, if the other would read it differently. -/
theorem idxOf_instanceMethod_lt {order : List LineKind} (hperm : order.Perm LineKind.precedence)
    {line : Bytes} {k : LineKind} (hk : k.Matches line) (hne : k ≠ .instanceMethodLine)
    (hread : Line.classifyBy order line ≠ (k.read? line).getD (.ok (.prose line))) :
    order.idxOf .instanceMethodLine < order.idxOf k := by
  apply Line.idxOf_lt_of_classifyBy_ne _ hk _ hread
  · exact hperm.mem_iff.2 (LineKind.mem_precedence_of_matches hk)
  · intro j hj
    by_cases hj' : j = .instanceMethodLine
    · exact Or.inl hj'
    · exact Or.inr (hj.unique hj' hne hk)

/-- **Where the order of the shapes matters.**  No line has two of the shapes of class lines,
    constructor lines, class methods and notes, and a line with the shape of an instance method has
    neither that of a class line nor that of a constructor line.  So every line is read alike in every
    order of the five shapes that keeps instance methods in front of class methods and notes, and these
    are the only orders that read every line as `Line.classify` does. -/
theorem classify_order_safe_iff :
    (∀ (line : Bytes) (k k' : LineKind), k ≠ .instanceMethodLine → k' ≠ .instanceMethodLine →
        k.Matches line → k'.Matches line → k = k') ∧
      (∀ line : Bytes, LineKind.instanceMethodLine.Matches line →
        ¬LineKind.classLine.Matches line ∧ ¬LineKind.constructorLine.Matches line) ∧
      ∀ order : List LineKind, order.Perm LineKind.precedence →
        ((∀ line, Line.classifyBy order line = Line.classify line) ↔ SafeOrder order) := by
  refine ⟨fun line k k' hk hk' h h' => h.unique hk hk' h', ?_, ?_⟩
  · intro line hinstance
    constructor
    · intro hclass
      simpa using hinstance.of_instanceMethod hclass
    · intro hconstructor
      simpa using hinstance.of_instanceMethod hconstructor
  intro order hperm
  constructor
  · intro hagree
    -- each of the two overlaps has a line that shows it
    constructor
    · have hclassMethod : LineKind.classMethodLine.Matches (bytes "a.b#c() -> X") := by decide
      apply idxOf_instanceMethod_lt hperm hclassMethod (by decide)
      rw [hagree]
      decide
    · have hnote : LineKind.noteLine.Matches (bytes "- a (X) - b#c() -> X") := by decide
      apply idxOf_instanceMethod_lt hperm hnote (by decide)
      rw [hagree]
      decide
  · intro hsafe line
    rw [← Line.classifyBy_precedence]
    exact hsafe.classifyBy_eq (by decide) hperm (List.Perm.refl _)

/-- A line with two shapes, tried in an order in which every other pair is turned round: it is still
    read as an instance method, of the owner `a.b` and not of `a`. -/
theorem overlap_read_in_reverse_order :
    let line := bytes "a.b#c(x) -> X"
    let order : List LineKind :=
      [.instanceMethodLine, .noteLine, .classMethodLine, .constructorLine, .classLine]
    order.Perm LineKind.precedence ∧ LineKind.instanceMethodLine.Matches line ∧
      LineKind.classMethodLine.Matches line ∧ ¬LineKind.noteLine.Matches line ∧
      ¬LineKind.constructorLine.Matches line ∧
      Line.classifyBy order line = Line.classify line ∧
      Line.classify line = .ok (.instanceMethodLine
        ⟨bytes "a.b#c", bytes "a.b", [⟨bytes "x", true, []⟩], [bytes "X"]⟩) := by
  intro line order
  have hperm : order.Perm LineKind.precedence := by decide
  have hinstance : LineKind.instanceMethodLine.Matches line := by decide
  have hclassMethod : LineKind.classMethodLine.Matches line := by decide
  obtain ⟨hunique, hdeclares, horder⟩ := classify_order_safe_iff
  refine ⟨hperm, hinstance, hclassMethod, fun hnote => ?_, (hdeclares line hinstance).2,
    (horder order hperm).2 (by decide) line, by decide⟩
  exact absurd (hunique line _ _ (by decide) (by decide) hclassMethod hnote) (by decide)

end DocPages
