import DocPages.Proofs.ArgumentLists
import DocPages.Proofs.MethodLines

/-!
# Where Default Values Come From

An argument is spelled as a name, or as a name, the mark ` = ` and a default value.  Reading accepts one
more form: a name and any words without an equals sign behind a space.  The words, with the space in
front, are then taken for the default value, although no mark was written.

These are all the forms there are.  So a token is read as it is spelled unless it holds a space and no
equals sign, and a default value in a declaration stands behind the mark or behind a space.  A token of
none of the forms makes the whole line malformed.

## Main results

- `SpellsArgument`, `LooseArgument`: the forms of a token
- `parseArgument_eq_ok_iff`, `parseArgument_eq_ok_iff_spells_iff`: a token is read in these forms only, and
  when it is read as it is spelled
- `Line.arguments?`, `Line.parseArguments_of_classify`, `Line.classify_of_malformed`: the arguments of a
  declaration line
- `ArgumentList.exists_token`: every argument of a list comes from a token of it
- `spelling_kept_unless_loose`: tokens and lines are read as they are spelled, loose tokens apart
- `words_taken_for_default`: a loose token, and a line with it
-/

namespace DocPages

/-! ## §1 The forms of a token -/

/-- The token is the name of the argument, or its name, the mark and its default value. -/
inductive SpellsArgument (required : Bool) : Bytes → Parameter → Prop where
  | name {name : Bytes} (hne : name ≠ []) (hname : ∀ b ∈ name, isNameByte b = true) :
      SpellsArgument required name ⟨name, required, []⟩
  | default {name default : Bytes} (hne : name ≠ []) (hname : ∀ b ∈ name, isNameByte b = true)
      (hdefault : default ≠ []) (heq : byte '=' ∉ default) :
      SpellsArgument required (name ++ bytes " = " ++ default) ⟨name, required, default⟩

/-- The token is the name of the argument and words behind a space; the space and the words are its
    default value. -/
inductive LooseArgument (required : Bool) : Bytes → Parameter → Prop where
  | words {name words : Bytes} (hne : name ≠ []) (hname : ∀ b ∈ name, isNameByte b = true)
      (heq : byte '=' ∉ words) :
      LooseArgument required (name ++ byte ' ' :: words) ⟨name, required, byte ' ' :: words⟩

theorem notMem_of_isNameByte {name : Bytes} (hname : ∀ b ∈ name, isNameByte b = true) :
    byte ' ' ∉ name ∧ byte '=' ∉ name :=
  ⟨fun h => absurd (hname _ h) (by decide), fun h => absurd (hname _ h) (by decide)⟩

section Token

variable {required : Bool} {t : Bytes} {p : Parameter}

/-- A spelled token with a space in it has the equals sign of the mark. -/
theorem SpellsArgument.not_loose (h : SpellsArgument required t p) :
    ¬(byte ' ' ∈ t ∧ byte '=' ∉ t) := by
  rintro ⟨hspace, heq⟩
  cases h with
  | name hne hname => exact (notMem_of_isNameByte hname).1 hspace
  | default hne hname hdefault hdefault_eq =>
    have hmark : byte '=' ∈ bytes " = " := by decide
    exact heq (by simp [hmark])

theorem LooseArgument.loose (h : LooseArgument required t p) : byte ' ' ∈ t ∧ byte '=' ∉ t := by
  cases h with
  | words hne hname heq =>
    refine ⟨by simp, ?_⟩
    simp [(notMem_of_isNameByte hname).2, heq, show byte '=' ≠ byte ' ' by decide]

/-! ## §2 Reading a token -/

theorem SpellsArgument.read (h : SpellsArgument required t p) : parseArgument required t = .ok p := by
  cases h with
  | name hne hname =>
    have hread := parseArgument_append required hne hname (Or.inl rfl) (by decide)
    rwa [List.append_nil] at hread
  | default hne hname hdefault heq =>
    rw [List.append_assoc]
    exact parseArgument_append required hne hname (Or.inr ⟨_, rfl⟩) heq

theorem LooseArgument.read (h : LooseArgument required t p) : parseArgument required t = .ok p := by
  cases h with
  | @words name words hne hname heq =>
    have hkept : Bytes.trimPrefix (bytes " = ") (byte ' ' :: words) = byte ' ' :: words := by
      -- the words hold no equals sign, so they are not behind the mark
      rcases Bytes.trimPrefix_cases (bytes " = ") (byte ' ' :: words) with hmark | hkept
      · have hmem : byte '=' ∈ byte ' ' :: words := by
          rw [hmark]
          exact List.mem_append_left _ (by decide)
        exact absurd ((List.mem_cons.1 hmem).resolve_left (by decide)) heq
      · exact hkept
    have hread := parseArgument_append required hne hname (Or.inr ⟨words, rfl⟩)
    rw [hkept] at hread
    apply hread
    simp [heq, show byte '=' ≠ byte ' ' by decide]

/-- A trimmed token is read in these two forms only. -/
theorem parseArgument_eq_ok_iff (ht : trim t = t) :
    parseArgument required t = .ok p ↔ SpellsArgument required t p ∨ LooseArgument required t p := by
  constructor
  · intro h
    obtain ⟨name, required', default⟩ := p
    obtain ⟨hrequired, hne, hname, heq, hform⟩ := parseArgument_cases h
    dsimp only at hrequired hne hname heq hform
    subst hrequired
    rcases hform with ⟨rfl, rfl⟩ | rfl | ⟨words, rfl, rfl⟩
    · exact Or.inl (.name hne hname)
    · exact Or.inl (.default hne hname (default_ne_nil_of_trim ht) heq)
    · exact Or.inr (.words hne hname fun hmem => heq (List.mem_cons_of_mem _ hmem))
  · rintro (h | h)
    · exact h.read
    · exact h.read

end Token

/-- A trimmed token with a space and no equals sign is loose: it does not begin with the space. -/
theorem exists_looseArgument (required : Bool) {t : Bytes} (ht : trim t = t) (hspace : byte ' ' ∈ t)
    (heq : byte '=' ∉ t) : ∃ p, LooseArgument required t p := by
  obtain ⟨name, words, rfl, hname⟩ := List.eq_append_cons_of_mem hspace
  have hne : name ≠ [] := by
    rintro rfl
    exact trim_space_cons_ne words ht
  refine ⟨_, .words hne (fun b hb => ?_) fun hmem => heq (by simp [hmem])⟩
  have hb_space : b ≠ byte ' ' := by
    rintro rfl
    exact hname hb
  have hb_eq : b ≠ byte '=' := by
    rintro rfl
    exact heq (List.mem_append_left _ hb)
  simp [isNameByte, hb_space, hb_eq]

/-- A trimmed token is read as it is spelled, and in no other way, unless it holds a space and no equals
    sign. -/
theorem parseArgument_eq_ok_iff_spells_iff {t : Bytes} (ht : trim t = t) :
    (∀ required p, parseArgument required t = .ok p ↔ SpellsArgument required t p) ↔
      ¬(byte ' ' ∈ t ∧ byte '=' ∉ t) := by
  constructor
  · rintro h ⟨hspace, heq⟩
    obtain ⟨p, hp⟩ := exists_looseArgument true ht hspace heq
    exact ((h true p).1 hp.read).not_loose ⟨hspace, heq⟩
  · intro hloose required p
    rw [parseArgument_eq_ok_iff ht]
    constructor
    · rintro (h | h)
      · exact h
      · exact absurd h.loose hloose
    · exact Or.inl

/-! ## §3 The arguments of a line -/

namespace Line

/-- The text between the parentheses of a declaration line. -/
def arguments? (line : Bytes) : Option Bytes :=
  match constructorShape? line with
  | some s => some s.arguments
  | none =>
  match instanceMethodShape? line with
  | some s => some s.arguments
  | none => (classMethodShape? line).map MethodShape.arguments

/-- How a line has arguments: by the shape that it is read by. -/
theorem arguments?_cases {line arguments : Bytes} (h : arguments? line = some arguments) :
    (∃ s, constructorShape? line = some s ∧ s.arguments = arguments) ∨
      (∃ s, instanceMethodShape? line = some s ∧ s.arguments = arguments) ∨
      ∃ s, instanceMethodShape? line = none ∧ classMethodShape? line = some s ∧
        s.arguments = arguments := by
  unfold arguments? at h
  split at h
  · next s hs => exact Or.inl ⟨s, hs, Option.some.inj h⟩
  split at h
  · next s hs => exact Or.inr (Or.inl ⟨s, hs, Option.some.inj h⟩)
  · next hinstance =>
    obtain ⟨s, hs, harguments⟩ := Option.map_eq_some_iff.1 h
    exact Or.inr (Or.inr ⟨s, hinstance, hs, harguments⟩)

/-- The arguments stand in parentheses in the line. -/
theorem arguments?_infix {line arguments : Bytes} (h : arguments? line = some arguments) :
    bytes "(" ++ arguments ++ bytes ")" <:+: line := by
  have hmethod : ∀ (mark : UInt8) (s : MethodShape),
      bytes "(" ++ s.arguments ++ bytes ")" <:+: s.text mark := by
    intro mark s
    refine ⟨s.owner ++ mark :: s.name, bytes " -> " ++ s.returns, ?_⟩
    simp [MethodShape.text, callText, bytes_parenthesis]
  rcases arguments?_cases h with ⟨s, hs, rfl⟩ | ⟨s, hs, rfl⟩ | ⟨s, -, hs, rfl⟩
  · obtain ⟨rfl, -, -⟩ := constructorShape?_eq_some_iff.1 hs
    exact ⟨s.key, [], by simp [ConstructorShape.text, bytes_parenthesis]⟩
  · obtain ⟨rfl, -, -⟩ := instanceMethodShape?_eq_some_iff.1 hs
    exact hmethod _ s
  · obtain ⟨rfl, -, -⟩ := classMethodShape?_eq_some_iff.1 hs
    exact hmethod _ s

/-- The arguments of a declaration are read from the text between the parentheses. -/
theorem parseArguments_of_classify {line : Bytes} {l : Line} {d : Declaration}
    (h : classify line = .ok l) (hd : l.declaration? = some d) :
    ∃ arguments, arguments? line = some arguments ∧ parseArguments arguments = .ok d.parameters := by
  rcases classify_cases h with ⟨key, -, rfl⟩ | ⟨s, d', hshape, hdecl, rfl⟩ |
    ⟨s, d', hshape, hdecl, rfl⟩ | ⟨s, d', hnone, hshape, hdecl, rfl⟩ | ⟨-, n, -, -, rfl⟩ | rfl
  · simp [declaration?] at hd
  · obtain rfl := Option.some.inj hd
    exact ⟨s.arguments, by simp [arguments?, hshape],
      (ConstructorShape.declaration_eq_ok_iff.1 hdecl).1⟩
  · obtain rfl := Option.some.inj hd
    obtain ⟨rfl, hs, -⟩ := instanceMethodShape?_eq_some_iff.1 hshape
    exact ⟨s.arguments, by simp [arguments?, constructorShape?_eq_none hs, hshape],
      (MethodShape.declaration_eq_ok_iff.1 hdecl).1⟩
  · obtain rfl := Option.some.inj hd
    obtain ⟨rfl, hs, -⟩ := classMethodShape?_eq_some_iff.1 hshape
    exact ⟨s.arguments, by simp [arguments?, constructorShape?_eq_none hs, hnone, hshape],
      (MethodShape.declaration_eq_ok_iff.1 hdecl).1⟩
  · simp [declaration?] at hd
  · simp [declaration?] at hd

/-- A line whose arguments cannot be read is refused. -/
theorem classify_of_malformed {line arguments : Bytes} (h : arguments? line = some arguments)
    (hnone : ¬∃ ps, parseArguments arguments = .ok ps) : ∃ e, classify line = .error e := by
  have hmethod : ∀ (mark : Bytes) (s : MethodShape), s.arguments = arguments →
      ∃ e, s.declaration mark = .error e := by
    intro mark s hs
    apply MethodShape.declaration_of_error
    rintro ⟨ps, _, hps, -⟩
    exact hnone ⟨ps, hs ▸ hps⟩
  rcases arguments?_cases h with ⟨s, hs, rfl⟩ | ⟨s, hs, harguments⟩ | ⟨s, hinstance, hs, harguments⟩
  · rw [classify_constructor hs]
    cases hd : s.declaration with
    | error e => exact ⟨e, rfl⟩
    | ok d => exact absurd ⟨_, (ConstructorShape.declaration_eq_ok_iff.1 hd).1⟩ hnone
  · obtain ⟨e, he⟩ := hmethod (bytes "#") s harguments
    exact ⟨e, by rw [classify_instanceMethod hs, he]; rfl⟩
  · obtain ⟨e, he⟩ := hmethod (bytes ".") s harguments
    exact ⟨e, by rw [classify_classMethod hinstance hs, he]; rfl⟩

end Line

/-! ## §4 The tokens of a list -/

theorem TokenRun.exists_token {required : Bool} {run : Bytes} {ps : List Parameter}
    (h : TokenRun required run ps) {p : Parameter} (hp : p ∈ ps) :
    ∃ token, token <:+: run ∧ parseArgument required (trim token) = .ok p := by
  cases h with
  | empty => simp at hp
  | tokens hne hcomma hread =>
    obtain ⟨token, htoken, hparse, -⟩ := exists_of_forall₂_of_mem hread hp
    exact ⟨token, Bytes.infix_join_of_mem htoken, hparse⟩

/-- Every argument of a list is read from a token that stands in the list. -/
theorem ArgumentList.exists_token {s : Bytes} {ps : List Parameter} (h : ArgumentList s ps)
    {p : Parameter} (hp : p ∈ ps) :
    ∃ token required, token <:+: s ∧ parseArgument required (trim token) = .ok p := by
  cases h with
  | plain hrun hps =>
    obtain ⟨token, htoken, hparse⟩ := hps.exists_token hp
    exact ⟨token, true, htoken, hparse⟩
  | @bracketed required sep optional first second hrequired hoptional hsep hfirst hsecond =>
    rcases List.mem_append.1 hp with hp | hp
    · obtain ⟨token, htoken, hparse⟩ := hfirst.exists_token hp
      refine ⟨token, true, htoken.trans ?_, hparse⟩
      exact ⟨[], bytes "[" ++ sep ++ optional ++ bytes "]", by simp⟩
    · obtain ⟨token, htoken, hparse⟩ := hsecond.exists_token hp
      refine ⟨token, false, htoken.trans ?_, hparse⟩
      exact ⟨required ++ bytes "[" ++ sep, bytes "]", by simp⟩

/-- The default value of an argument is written behind the mark, or the argument is loose. -/
def DefaultWritten (s : Bytes) (p : Parameter) : Prop :=
  p.name ++ bytes " = " ++ p.default <:+: s ∨
    ∃ words, p.default = byte ' ' :: words ∧ byte '=' ∉ words ∧ p.name ++ byte ' ' :: words <:+: s

theorem ArgumentList.defaultWritten {s : Bytes} {ps : List Parameter} (h : ArgumentList s ps)
    {p : Parameter} (hp : p ∈ ps) (hdefault : p.default ≠ []) : DefaultWritten s p := by
  obtain ⟨token, required, htoken, hparse⟩ := h.exists_token hp
  have htrim : trim token <:+: s := by
    obtain ⟨u, v, heq, -⟩ := exists_eq_append_trim_append token
    refine List.IsInfix.trans ⟨u, v, ?_⟩ htoken
    exact heq.symm
  rcases (parseArgument_eq_ok_iff (trim_trim token)).1 hparse with hform | hform
  · generalize trim token = t at hform htrim
    cases hform with
    | name hne hname => exact absurd rfl hdefault
    | default hne hname hne' heq => exact Or.inl htrim
  · generalize trim token = t at hform htrim
    cases hform with
    | words hne hname heq => exact Or.inr ⟨_, rfl, heq, htrim⟩

/-! ## §5 Spelling -/

/-- **Arguments are read as they are spelled, loose ones apart.**  A trimmed token is read iff it is a
    name without spaces and equals signs; or such a name, ` = ` and a default value that is not empty and
    has no equals sign; or such a name and words without an equals sign behind a space.  Every other
    token is a malformed signature.  The last form is not spelled as an argument, so what is read agrees
    with the spelling iff the token does not hold a space and no equals sign.

    A default value is recorded in a declaration only where ` = ` is written or where a token is loose.
    A declaration has all the arguments of the list between its parentheses; when these cannot all be
    read, there is no declaration at all. -/
theorem spelling_kept_unless_loose (t line : Bytes) :
    (trim t = t →
      (∀ required p, parseArgument required t = .ok p ↔
        SpellsArgument required t p ∨ LooseArgument required t p) ∧
      (∀ required, (¬∃ p, SpellsArgument required t p ∨ LooseArgument required t p) →
        ∃ e detail, parseArgument required t = .error e ∧
          e.message = bytes "malformed signature: " ++ detail) ∧
      ((∀ required p, parseArgument required t = .ok p ↔ SpellsArgument required t p) ↔
        ¬(byte ' ' ∈ t ∧ byte '=' ∉ t))) ∧
    (∀ l d, Line.classify line = .ok l → l.declaration? = some d →
      ∃ arguments, Line.arguments? line = some arguments ∧
        bytes "(" ++ arguments ++ bytes ")" <:+: line ∧ ArgumentList arguments d.parameters ∧
        ∀ p ∈ d.parameters, p.default ≠ [] → DefaultWritten arguments p) ∧
    (∀ arguments, Line.arguments? line = some arguments →
      (¬∃ ps, ArgumentList arguments ps) →
        ∃ e detail, Line.classify line = .error e ∧
          e.message = bytes "malformed signature: " ++ detail) := by
  refine ⟨?_, ?_, ?_⟩
  · intro ht
    refine ⟨fun required p => parseArgument_eq_ok_iff ht, ?_, parseArgument_eq_ok_iff_spells_iff ht⟩
    intro required hnone
    cases hparse : parseArgument required t with
    | ok p => exact absurd ⟨p, (parseArgument_eq_ok_iff ht).1 hparse⟩ hnone
    | error e =>
      obtain ⟨detail, hdetail⟩ := e.message_eq
      exact ⟨e, detail, rfl, hdetail⟩
  · intro l d hline hd
    obtain ⟨arguments, harguments, hparse⟩ := Line.parseArguments_of_classify hline hd
    have hlist := parseArguments_eq_ok_iff_argumentList.1 hparse
    exact ⟨arguments, harguments, Line.arguments?_infix harguments, hlist,
      fun p hp hdefault => hlist.defaultWritten hp hdefault⟩
  · intro arguments harguments hnone
    have hmalformed : ¬∃ ps, parseArguments arguments = .ok ps := by
      rintro ⟨ps, hps⟩
      exact hnone ⟨ps, parseArguments_eq_ok_iff_argumentList.1 hps⟩
    obtain ⟨e, he⟩ := Line.classify_of_malformed harguments hmalformed
    obtain ⟨detail, hdetail⟩ := e.message_eq
    exact ⟨e, detail, he, hdetail⟩

/-- A line with an argument of each form: a name alone, a loose one, and one with a default value. -/
theorem three_forms_in_one_line :
    let line := bytes "Foo#f(a, b  of c[, d = e f]) -> X"
    let d : Declaration := ⟨bytes "Foo#f", bytes "Foo", [⟨bytes "a", true, []⟩,
      ⟨bytes "b", true, bytes "  of c"⟩, ⟨bytes "d", false, bytes "e f"⟩], [bytes "X"]⟩
    trim (bytes "d = e f") = bytes "d = e f" ∧
      SpellsArgument false (bytes "d = e f") ⟨bytes "d", false, bytes "e f"⟩ ∧
      Line.classify line = .ok (.instanceMethodLine d) ∧
      ∃ arguments, Line.arguments? line = some arguments ∧ ArgumentList arguments d.parameters ∧
        ∀ p ∈ d.parameters, p.default ≠ [] → DefaultWritten arguments p := by
  intro line d
  have htrim : trim (bytes "d = e f") = bytes "d = e f" := by decide
  have hkept := spelling_kept_unless_loose (bytes "d = e f") line
  have hspelled : SpellsArgument false (bytes "d = e f") ⟨bytes "d", false, bytes "e f"⟩ :=
    (((hkept.1 htrim).2.2.2 (by decide)) false _).1 (by decide)
  have hline : Line.classify line = .ok (.instanceMethodLine d) := by decide
  obtain ⟨arguments, harguments, -, hlist, hwritten⟩ := hkept.2.1 _ d hline rfl
  exact ⟨htrim, hspelled, hline, arguments, harguments, hlist, hwritten⟩

/-- Words behind a space are taken for a default value: the token is spelled as no argument, and a line
    without any equals sign is read with a default value. -/
theorem words_taken_for_default :
    trim (bytes "a b") = bytes "a b" ∧
      parseArgument true (bytes "a b") = .ok ⟨bytes "a", true, bytes " b"⟩ ∧
      (¬∃ p, SpellsArgument true (bytes "a b") p) ∧
      byte '=' ∉ bytes "Foo#f(a b) -> X" ∧
      Line.classify (bytes "Foo#f(a b) -> X") = .ok (.instanceMethodLine
        ⟨bytes "Foo#f", bytes "Foo", [⟨bytes "a", true, bytes " b"⟩], [bytes "X"]⟩) := by
  refine ⟨by decide, by decide, ?_, by decide, by decide⟩
  rintro ⟨p, hp⟩
  exact hp.not_loose (by decide)

end DocPages
