import DocPages.Page.Markup
import DocPages.Proofs.Accounting
import DocPages.Proofs.MethodLines
import DocPages.Proofs.Ownership

/-!
# Labels of Members

The label of a member is what is left of its key without the key of its class.  For methods the class
key stands in front and the label is the rest.  For a constructor it can stand anywhere in the key, or
nowhere: `create` stands between the parts of the class key, and `createFoo` and `createcreateFoo` are
both class keys and ends of factory keys.  What matters is that a constructor key has as many dots as
the key of its class.  If the class key is found and taken out, no dot is left, so the label is taken
from the whole key; if it is not found, the whole key is what is left.

## Main results

- `LastSegment`: the part of a name behind its last dot
- `lastSegment_trailingSegment`: where the label of a constructor ends up
- `Line.MemberForm`, `Line.classify_memberForm`: how the key of a member continues the key of its class
- `Entity.DeclaredBy`, `Transcript.run_declaredBy`: an entity has the key, the kind and the class of its
  surviving declaration
- `labels_identify_members`: labels of every accepted list of scripts
-/

namespace DocPages

/-! ## §1 The last segment of a name -/

/-- `segment` is the part of `name` behind its last dot, or all of it when it holds none. -/
def LastSegment (name segment : Bytes) : Prop :=
  byte '.' ∉ segment ∧ (name = segment ∨ ∃ before, name = before ++ byte '.' :: segment)

namespace LastSegment

variable {name segment : Bytes}

theorem of_notMem (h : byte '.' ∉ name) : LastSegment name name := ⟨h, Or.inl rfl⟩

theorem of_cut {before : Bytes} (h : Bytes.cutLast? [byte '.'] name = some (before, segment)) :
    LastSegment name segment := by
  obtain ⟨hname, hsegment⟩ := Bytes.cutLast?_byte_eq_some_iff.1 h
  exact ⟨hsegment, Or.inr ⟨before, hname⟩⟩

/-- A name that ends in a capitalised name has a last segment with something in it. -/
theorem ne_nil {space word : Bytes} (h : LastSegment (space ++ word) segment)
    (hword : isCapitalised word = true) : segment ≠ [] := by
  rintro rfl
  have hne : word ≠ [] := by
    rintro rfl
    simp [isCapitalised] at hword
  rcases h.2 with hname | ⟨before, hname⟩
  · exact hne (List.append_eq_nil_iff.1 hname).2
  · -- the last byte would be a dot, but it is a letter of the capitalised name
    have hlast : word.getLast? = some (byte '.') := by
      have := congrArg List.getLast? hname
      rwa [List.getLast?_append_of_ne_nil _ hne, List.getLast?_concat] at this
    have hletter := isLetter_of_mem_capitalised hword (List.mem_of_getLast? hlast)
    exact absurd hletter (by decide)

end LastSegment

/-! ## §2 What is left of a key -/

/-- A constructor key has as many dots as the key of its class. -/
theorem ConstructorKey.count_dot {key classKey : Bytes} (h : ConstructorKey key classKey) :
    key.count (byte '.') = classKey.count (byte '.') := by
  have hnew : (bytes "new ").count (byte '.') = 0 := by decide
  have hcreate : (bytes "create").count (byte '.') = 0 := by decide
  rcases h with ⟨rfl, -⟩ | ⟨before, name, hform, rfl⟩
  · rw [List.count_append, hnew, Nat.zero_add]
  · rw [hform.key_eq, List.count_append, List.count_append, List.count_append, hcreate, Nat.add_zero]

/-- Without the key of its class, a constructor key is unchanged or has no dot left. -/
theorem ConstructorKey.replaceFirst_cases {key classKey : Bytes} (h : ConstructorKey key classKey) :
    Bytes.replaceFirst classKey [] key = key ∨ byte '.' ∉ Bytes.replaceFirst classKey [] key := by
  refine (Bytes.replaceFirst_nil_cases classKey key).imp_right fun hcount => ?_
  have hdot := hcount (byte '.')
  rw [h.count_dot] at hdot
  exact List.count_eq_zero.1 (Nat.add_eq_right.1 hdot)

/-- A constructor key without a leading `new` ends in a capitalised name. -/
theorem ConstructorKey.trimPrefix_eq {key classKey : Bytes} (h : ConstructorKey key classKey) :
    ∃ space name, Bytes.trimPrefix (bytes "new ") key = space ++ name ∧ isCapitalised name = true := by
  rcases h with ⟨rfl, hclass⟩ | ⟨before, name, hform, -⟩
  · obtain ⟨space, name, hkey, -, hname⟩ := isClassKey_iff.1 hclass
    exact ⟨space, name, by rw [Bytes.trimPrefix_append, hkey], hname⟩
  · -- a factory key holds no blank, so it does not begin with `new `
    have hblank : ¬bytes "new " <+: key := by
      intro hnew
      have hmem : byte ' ' ∈ key := hnew.subset (by decide)
      exact absurd (hform.key_bytes _ hmem) (by decide)
    exact ⟨before ++ bytes "create", name, by rw [Bytes.trimPrefix_of_not_prefix hblank, hform.key_eq],
      hform.capitalised⟩

/-- A leading `new` stands before every dot. -/
theorem trimPrefix_new_append_dot {key before segment : Bytes} (hkey : key = before ++ byte '.' :: segment) :
    ∃ before', Bytes.trimPrefix (bytes "new ") key = before' ++ byte '.' :: segment := by
  rcases Bytes.trimPrefix_cases (bytes "new ") key with hnew | hsame
  · rw [hkey] at hnew
    rcases List.append_eq_append_iff.1 hnew with ⟨w, hw, hcons⟩ | ⟨w, -, hcons⟩
    · cases w with
      | nil => exact ⟨[], by simpa [hkey] using hcons.symm⟩
      | cons c w =>
        -- the dot would be one of the four bytes
        obtain ⟨rfl, -⟩ := List.cons.inj hcons
        have hmem : byte '.' ∈ bytes "new " := by simp [hw]
        exact absurd hmem (by decide)
    · exact ⟨w, by rw [hkey, hcons]⟩
  · exact ⟨before, by rw [hsame, hkey]⟩

/-- With nothing left of a key, the trailing segment is taken from the key itself. -/
theorem lastSegment_of_nothing_left (key : Bytes) :
    LastSegment (Bytes.trimPrefix (bytes "new ") key)
      (Bytes.trimPrefix (bytes ".") (trailingSegment [] key)) := by
  have hnil : Bytes.cutLast? [byte '.'] [] = none := rfl
  simp only [trailingSegment, bytes_dot, hnil]
  cases hcut : Bytes.cutLast? [byte '.'] (Bytes.trimPrefix (bytes "new ") key) with
  | some parts =>
    rw [Bytes.trimPrefix_append]
    exact LastSegment.of_cut hcut
  | none =>
    have hdot := Bytes.cutLast?_byte_eq_none_iff.1 hcut
    rw [Bytes.trimPrefix_of_notMem hdot]
    exact LastSegment.of_notMem hdot

/-- When what is left of a key has no dot, or is the whole key, its trailing segment is the last segment
    of the key without a leading `new`. -/
theorem lastSegment_trailingSegment {rest key : Bytes} (h : rest = key ∨ byte '.' ∉ rest) :
    LastSegment (Bytes.trimPrefix (bytes "new ") key)
      (Bytes.trimPrefix (bytes ".") (trailingSegment rest key)) := by
  have hnothing := lastSegment_of_nothing_left key
  cases hcut : Bytes.cutLast? [byte '.'] rest with
  | none => simpa [trailingSegment, bytes_dot, hcut, Bytes.cutLast?] using hnothing
  | some parts =>
    obtain ⟨before, segment⟩ := parts
    cases segment with
    | nil => simpa [trailingSegment, bytes_dot, hcut, Bytes.cutLast?] using hnothing
    | cons c segment =>
      obtain ⟨hrest, hsegment⟩ := Bytes.cutLast?_byte_eq_some_iff.1 hcut
      -- a dot is left, so the key is unchanged
      have hkey : key = before ++ byte '.' :: c :: segment := by
        rcases h with rfl | hdot
        · exact hrest
        · exact absurd (by simp [hrest]) hdot
      have hlabel : Bytes.trimPrefix (bytes ".") (trailingSegment rest key) = c :: segment := by
        simp only [trailingSegment, bytes_dot, hcut]
        exact Bytes.trimPrefix_append _ _
      rw [hlabel]
      exact ⟨hsegment, Or.inr (trimPrefix_new_append_dot hkey)⟩

/-! ## §3 The keys of members -/

/-- A label that marks an instance method: a number sign and a name without one. -/
def MarkedName (label : Bytes) : Prop :=
  ∃ name, label = byte '#' :: name ∧ name ≠ [] ∧ byte '#' ∉ name

/-- How the key that a line declares continues the key of the class that it names. -/
def Line.MemberForm : Line → Prop
  | constructorLine d => ConstructorKey d.key d.classKey
  | instanceMethodLine d => ∃ label, d.key = d.classKey ++ label ∧ MarkedName label
  | classMethodLine d => ∃ label, d.key = d.classKey ++ byte '.' :: label ∧ label ≠ [] ∧
      byte '.' ∉ label ∧ ¬MarkedName label
  | _ => True

/-- The name of a class method is not marked like that of an instance method: the line would have been
    read as an instance method whose class key ends in the dot. -/
theorem MethodShape.Cuts.not_markedName {line : Bytes} {s : MethodShape}
    (hs : s.Cuts (byte '.') isKeyByte line) (hinstance : instanceMethodShape? line = none) :
    ¬MarkedName s.name := by
  rintro ⟨name, hname, hne, hhash⟩
  let t : MethodShape := ⟨s.owner ++ [byte '.'], name, s.arguments, s.returns⟩
  have ht : t.Cuts (byte '#') (· != byte '#') line := by
    refine ⟨?_, by simp [t], ?_, hne, ⟨hhash, hs.callable.arguments_bytes, hs.callable.returns_bytes,
      hs.callable.returns_ne_nil⟩⟩
    · rw [hs.line_eq]
      simp [t, MethodShape.text, callText, hname]
    · intro b hb
      -- letters and dots are no number signs
      have hkey : isKeyByte b = true := by
        rcases List.mem_append.1 hb with hb | hb
        · exact hs.owner_bytes b hb
        · rw [List.mem_singleton.1 hb]
          decide
      rw [bne_iff_ne]
      rintro rfl
      exact absurd hkey (by decide)
  obtain ⟨u, hu, hopens⟩ := ht.exists_longest (by decide)
  have hsome := instanceMethodShape?_eq_some_iff_cuts.2 ⟨hu, hopens⟩
  rw [hinstance] at hsome
  exact absurd hsome (by simp)

/-- Every line that is read has the member form of its kind. -/
theorem Line.classify_memberForm {text : Bytes} {l : Line} (h : classify text = .ok l) :
    l.MemberForm := by
  rcases classify_cases h with ⟨key, -, rfl⟩ | ⟨shape, d, hshape, hd, rfl⟩ |
    ⟨shape, d, hshape, hd, rfl⟩ | ⟨shape, d, hinstance, hshape, hd, rfl⟩ | ⟨-, n, -, -, rfl⟩ | rfl
  · trivial
  · obtain ⟨-, hkey, hclass, -⟩ := ConstructorShape.declaration_eq_ok_iff.1 hd
    simp only [MemberForm, hkey, hclass]
    exact (constructorShape?_eq_some_iff.1 hshape).2.1
  · obtain ⟨-, -, hkey, hclass⟩ := MethodShape.declaration_eq_ok_iff.1 hd
    obtain ⟨hcuts, -⟩ := instanceMethodShape?_eq_some_iff_cuts.1 hshape
    refine ⟨byte '#' :: shape.name, by rw [hkey, hclass, bytes_hash]; simp, shape.name, rfl,
      hcuts.name_ne_nil, hcuts.callable.name_bytes⟩
  · obtain ⟨-, -, hkey, hclass⟩ := MethodShape.declaration_eq_ok_iff.1 hd
    obtain ⟨hcuts, -⟩ := classMethodShape?_eq_some_iff_cuts.1 hshape
    exact ⟨shape.name, by rw [hkey, hclass, bytes_dot]; simp, hcuts.name_ne_nil,
      hcuts.callable.name_bytes, hcuts.not_markedName hinstance⟩
  · trivial
  · trivial

/-! ## §4 Entities and their declarations -/

/-- An entity has the key and the kind that a line declares, and its signature names no other class than
    the line. -/
structure Entity.DeclaredBy (e : Entity) (l : Line) : Prop where
  key : l.key? = some e.key
  kind : l.entityKind? = some e.kind
  classKey : ∀ s, e.signature? = some s → s.classKey ≠ [] →
    ∃ d, l.declaration? = some d ∧ d.classKey = s.classKey

theorem Entity.DeclaredBy.of_bare {e e' : Entity} {l : Line} (h : e'.DeclaredBy l)
    (hbare : e.bare = e'.bare) : e.DeclaredBy l where
  key := by rw [key_eq_of_bare hbare, h.key]
  kind := by rw [kind_eq_of_bare hbare, h.kind]
  classKey := by
    rw [signature?_eq_of_bare hbare]
    exact h.classKey

/-- A new entity is declared by the line that makes it. -/
theorem Session.newEntity_declaredBy {s : Session} (ht : s.tree.Invariant) {l : Line} {source key : Bytes}
    {number : Nat} (hkey : l.key? = some key) : (s.newEntity l source number key).DeclaredBy l where
  key := hkey
  kind := by
    obtain ⟨kind, hkind, hparticulars⟩ := s.newEntity_particulars l ⟨0, 0⟩ source number hkey
    rw [hkind]
    exact congrArg (some ·.kind) hparticulars.symm
  classKey := by
    intro sig hsig hne
    rw [newEntity_classKey hsig, ownerFor_map_key ht] at hne ⊢
    cases hd : l.declaration? with
    | none => simp [hd] at hne
    | some d =>
      refine ⟨d, rfl, ?_⟩
      cases hclass : s.tree.class? d.classKey with
      | none => simp [hd, hclass] at hne
      | some o => simp [hclass]

/-- A line that is read later changes nothing of this. -/
theorem Entity.DeclaredBy.step {s : Session} {l l' : Line} {source : Bytes} {number : Nat} {x : Handle}
    (hx : x < s.tree.store.size) (h : (s.tree.entity x).DeclaredBy l) :
    ((s.step l' source number).tree.entity x).DeclaredBy l where
  key := by
    rw [h.key, key_eq_of_bare (Session.step_bare hx)]
    split
    · rw [l'.revise_keepsPlace.key]
    · rfl
  kind := by rw [h.kind, Session.step_kind hx]
  classKey := by
    intro sig hsig hne
    obtain ⟨sig₀, hsig₀, hsame⟩ := Session.step_classKey hx hsig
    rw [hsame] at hne ⊢
    exact h.classKey sig₀ hsig₀ hne

/-- Along every run an indexed entity is declared by its surviving declaration. -/
theorem Transcript.run_declaredBy (es : List Event) {k : Bytes} {h : Handle}
    (hk : (start.run es).session.tree.index.find? k = some h) :
    ∃ pre r post, Surviving (start.run es).past k h pre r post ∧
      ((start.run es).session.tree.entity h).DeclaredBy r.line := by
  apply run_surviving (P := fun g _ h r _ => (g.session.tree.entity h).DeclaredBy r.line) _ _ _ es hk
  · intro g g' k h r post hp hdeclared
    obtain ⟨product, htree⟩ := hp.tree
    rw [htree]
    exact hdeclared
  · intro es source number l k hl hcreated
    apply Entity.DeclaredBy.of_bare _ (Session.step_bare_new hcreated)
    exact Session.newEntity_declaredBy (run_tracks es).nested.invariant
      (Session.key?_of_created hcreated)
  · intro es source number l k h r post hl hk hcreated hdeclared
    exact hdeclared.step ((run_tracks es).nested.invariant.stored k h hk).1

/-- Every entity of an accepted list of scripts is declared by a line of member form. -/
theorem exists_declaredBy {scripts : List Script} {t : Tree} (hparse : (parseScripts scripts).1 = .ok t)
    {h : Handle} (hh : h ∈ t.entities) :
    ∃ l : Line, l.KeyForm ∧ l.MemberForm ∧ (t.entity h).DeclaredBy l := by
  have hreadable := (parseScripts_eq_ok hparse).2
  obtain rfl := parseScripts_eq_transcript hparse
  have ht := (Transcript.run_tracks (events scripts)).nested.invariant
  obtain ⟨pre, r, post, hr, hdeclared⟩ :=
    Transcript.run_declaredBy (events scripts) ((ht.mem_entities_iff h).1 hh)
  have hmem : r ∈ readings scripts := by
    unfold readings
    rw [hr.split]
    exact List.mem_append_right _ List.mem_cons_self
  obtain ⟨script, -, -, n, raw, -, -, hline⟩ := exists_physical_line hreadable hmem
  exact ⟨r.line, Line.classify_keyForm hline, Line.classify_memberForm hline, hdeclared⟩

/-! ## §5 Labels -/

namespace Entity

variable {e : Entity} {s : Signature}

theorem label_of_classKey (hs : e.signature? = some s) (hK : s.classKey ≠ []) :
    e.label = Bytes.trimPrefix (bytes ".")
      (if e.kind = .constructor then trailingSegment (Bytes.replaceFirst s.classKey [] e.key) e.key
        else Bytes.replaceFirst s.classKey [] e.key) := by
  simp [label, hs, hK]

/-- An entity whose signature names no class is labelled with its key. -/
theorem label_eq_key (h : ∀ s, e.signature? = some s → s.classKey = []) : e.label = e.key := by
  unfold label
  cases hs : e.signature? with
  | none => rfl
  | some s => simp [h s hs]

/-- The label of a method is what follows the key of its class, without a leading dot. -/
theorem label_of_method {rest : Bytes} (hs : e.signature? = some s) (hK : s.classKey ≠ [])
    (hkind : e.kind ≠ .constructor) (hkey : e.key = s.classKey ++ rest) :
    e.label = Bytes.trimPrefix (bytes ".") rest := by
  rw [label_of_classKey hs hK, if_neg hkind, hkey, Bytes.replaceFirst_self_append hK, List.nil_append]

/-- What the label of a member of the class `K` says about its key. -/
structure LabelledIn (e : Entity) (K : Bytes) : Prop where
  instanceMethod : e.kind = .instanceMethod → e.key = K ++ e.label ∧ MarkedName e.label
  classMethod : e.kind = .classMethod → e.key = K ++ bytes "." ++ e.label ∧ byte '.' ∉ e.label ∧
    ¬MarkedName e.label
  constructor : e.kind = .constructor → LastSegment (Bytes.trimPrefix (bytes "new ") e.key) e.label
  ne_nil : e.label ≠ []

/-- The label of a declared member, one kind after the other. -/
theorem DeclaredBy.labelledIn {l : Line} (h : e.DeclaredBy l) (hl : l.MemberForm)
    (hs : e.signature? = some s) (hK : s.classKey ≠ []) : e.LabelledIn s.classKey := by
  obtain ⟨d, hd, hclass⟩ := h.classKey s hs hK
  have hkey : d.key = e.key := by
    have := h.key
    cases l <;> simp_all [Line.key?, Line.declaration?]
  have hkind := h.kind
  cases l with
  | prose _ => simp [Line.declaration?] at hd
  | classLine _ => simp [Line.declaration?] at hd
  | noteLine _ => simp [Line.declaration?] at hd
  | constructorLine d' =>
    obtain rfl : d' = d := Option.some.inj hd
    have hkind : e.kind = .constructor := (Option.some.inj hkind).symm
    have hform : ConstructorKey e.key s.classKey := hkey ▸ hclass ▸ hl
    have hlabel : LastSegment (Bytes.trimPrefix (bytes "new ") e.key) e.label := by
      rw [label_of_classKey hs hK, if_pos hkind]
      exact lastSegment_trailingSegment hform.replaceFirst_cases
    refine ⟨by simp [hkind], by simp [hkind], fun _ => hlabel, ?_⟩
    obtain ⟨space, name, hname, hcapitalised⟩ := hform.trimPrefix_eq
    exact (hname ▸ hlabel).ne_nil hcapitalised
  | instanceMethodLine d' =>
    obtain rfl : d' = d := Option.some.inj hd
    have hkind : e.kind = .instanceMethod := (Option.some.inj hkind).symm
    obtain ⟨label, hlabel, hmarked⟩ := hl
    rw [hkey, hclass] at hlabel
    have heq : e.label = label := by
      rw [label_of_method hs hK (by simp [hkind]) hlabel]
      -- a number sign is no dot
      obtain ⟨name, rfl, -⟩ := hmarked
      rfl
    refine ⟨fun _ => by rw [heq]; exact ⟨hlabel, hmarked⟩, by simp [hkind], by simp [hkind], ?_⟩
    obtain ⟨name, rfl, -⟩ := hmarked
    simp [heq]
  | classMethodLine d' =>
    obtain rfl : d' = d := Option.some.inj hd
    have hkind : e.kind = .classMethod := (Option.some.inj hkind).symm
    obtain ⟨label, hlabel, hne, hdot, hmarked⟩ := hl
    rw [hkey, hclass] at hlabel
    have heq : e.label = label := by
      rw [label_of_method hs hK (by simp [hkind]) hlabel]
      exact Bytes.trimPrefix_append _ _
    refine ⟨by simp [hkind], fun _ => ?_, by simp [hkind], heq ▸ hne⟩
    rw [heq, hlabel, bytes_dot]
    exact ⟨by simp, hdot, hmarked⟩

/-- Whether an entity is a method of either kind. -/
def IsMethod (e : Entity) : Prop := e.kind = .instanceMethod ∨ e.kind = .classMethod

/-- Methods of one class with one label have one key. -/
theorem LabelledIn.key_eq {e₁ e₂ : Entity} {K : Bytes} (h₁ : e₁.LabelledIn K) (h₂ : e₂.LabelledIn K)
    (hm₁ : e₁.IsMethod) (hm₂ : e₂.IsMethod) (hlabel : e₁.label = e₂.label) : e₁.key = e₂.key := by
  rcases hm₁ with hm₁ | hm₁ <;> rcases hm₂ with hm₂ | hm₂
  · rw [(h₁.instanceMethod hm₁).1, (h₂.instanceMethod hm₂).1, hlabel]
  · -- a marked label is no label of a class method
    exact absurd (hlabel ▸ (h₁.instanceMethod hm₁).2) (h₂.classMethod hm₂).2.2
  · exact absurd (hlabel ▸ (h₂.instanceMethod hm₂).2) (h₁.classMethod hm₁).2.2
  · rw [(h₁.classMethod hm₁).1, (h₂.classMethod hm₂).1, hlabel]

/-- A method has a signature. -/
theorem IsMethod.exists_signature (h : e.IsMethod) : ∃ s, e.signature? = some s := by
  unfold IsMethod kind at h
  cases hb : e.body with
  | classBody _ => simp [hb] at h
  | constructorBody _ _ => simp [hb] at h
  | methodBody static s => exact ⟨s, by simp [signature?, hb]⟩

end Entity

/-- The class that holds a constructor or method has the key that its signature names. -/
theorem classKey_of_owner? {scripts : List Script} {t : Tree} (hparse : (parseScripts scripts).1 = .ok t)
    {h o : Handle} (hh : h ∈ t.entities) {s : Signature} (hs : (t.entity h).signature? = some s)
    (ho : t.owner? (t.entity h).key = some o) : s.classKey = (t.entity o).key ∧ s.classKey ≠ [] := by
  obtain rfl := parseScripts_eq_transcript hparse
  have ht := (Transcript.run_tracks (events scripts)).nested.invariant
  obtain ⟨pre, r, post, -, howned⟩ :=
    Transcript.run_owned (events scripts) ((ht.mem_entities_iff h).1 hh)
  obtain ⟨hkey, hne, -⟩ := (howned s hs _).1 (by rw [Tree.ownerKey?, ho]; rfl)
  exact ⟨hkey.symm, hne⟩

/-- **Labels identify members.**  In the tree of an accepted list of scripts no label is empty.  The key
    of an instance method is the key of the class that its signature names followed by its label, which
    begins with a number sign; the key of a class method has a dot between the two, and there is none in
    its label; the label of a constructor is what follows the last dot of its key without a leading
    `new`.  Two methods that one class holds have different labels. -/
theorem labels_identify_members (scripts : List Script) (t : Tree)
    (hparse : (parseScripts scripts).1 = .ok t) :
    (∀ h ∈ t.entities, (t.entity h).label ≠ []) ∧
    (∀ h ∈ t.entities, ∀ s, (t.entity h).signature? = some s → s.classKey ≠ [] →
      ((t.entity h).kind = .instanceMethod →
        (t.entity h).key = s.classKey ++ (t.entity h).label ∧ bytes "#" <+: (t.entity h).label) ∧
      ((t.entity h).kind = .classMethod →
        (t.entity h).key = s.classKey ++ bytes "." ++ (t.entity h).label ∧
          byte '.' ∉ (t.entity h).label) ∧
      ((t.entity h).kind = .constructor →
        LastSegment (Bytes.trimPrefix (bytes "new ") (t.entity h).key) (t.entity h).label)) ∧
    ∀ h₁ ∈ t.entities, ∀ h₂ ∈ t.entities, (t.entity h₁).IsMethod → (t.entity h₂).IsMethod →
      ∀ o, t.owner? (t.entity h₁).key = some o → t.owner? (t.entity h₂).key = some o → h₁ ≠ h₂ →
        (t.entity h₁).label ≠ (t.entity h₂).label := by
  have hlabelled : ∀ h ∈ t.entities, ∀ s, (t.entity h).signature? = some s → s.classKey ≠ [] →
      (t.entity h).LabelledIn s.classKey := by
    intro h hh s hs hK
    obtain ⟨l, -, hl, hdeclared⟩ := exists_declaredBy hparse hh
    exact hdeclared.labelledIn hl hs hK
  refine ⟨?_, ?_, ?_⟩
  · intro h hh
    by_cases hmember : ∃ s, (t.entity h).signature? = some s ∧ s.classKey ≠ []
    · obtain ⟨s, hs, hK⟩ := hmember
      exact (hlabelled h hh s hs hK).ne_nil
    · -- what is no member is labelled with its key, and no line declares an empty key
      push Not at hmember
      obtain ⟨l, hl, -, hdeclared⟩ := exists_declaredBy hparse hh
      rw [Entity.label_eq_key hmember]
      exact hl.key_ne_nil hdeclared.key
  · intro h hh s hs hK
    have hlabel := hlabelled h hh s hs hK
    refine ⟨fun hkind => ?_, fun hkind => ?_, hlabel.constructor⟩
    · obtain ⟨hkey, name, hmarked, -⟩ := hlabel.instanceMethod hkind
      exact ⟨hkey, name, hmarked.symm⟩
    · obtain ⟨hkey, hdot, -⟩ := hlabel.classMethod hkind
      exact ⟨hkey, hdot⟩
  · intro h₁ hh₁ h₂ hh₂ hm₁ hm₂ o ho₁ ho₂ hne hlabel
    obtain ⟨s₁, hs₁⟩ := hm₁.exists_signature
    obtain ⟨s₂, hs₂⟩ := hm₂.exists_signature
    obtain ⟨hK₁, hK₁_ne⟩ := classKey_of_owner? hparse hh₁ hs₁ ho₁
    obtain ⟨hK₂, hK₂_ne⟩ := classKey_of_owner? hparse hh₂ hs₂ ho₂
    have hl₁ := hlabelled h₁ hh₁ s₁ hs₁ hK₁_ne
    have hl₂ := hlabelled h₂ hh₂ s₂ hs₂ hK₂_ne
    rw [hK₁] at hl₁
    rw [hK₂] at hl₂
    -- one key, so one entity
    have hkey := hl₁.key_eq hl₂ hm₁ hm₂ hlabel
    have ht := (parseScripts_nested hparse).invariant
    have hindex₁ := (ht.mem_entities_iff h₁).1 hh₁
    rw [hkey, (ht.mem_entities_iff h₂).1 hh₂] at hindex₁
    exact hne (Option.some.inj hindex₁).symm

/-- A class whose key ends its own factory key, with methods that are called like it. -/
theorem labels_of_class_named_create :
    let scripts : List Script := [⟨bytes "a.js", bytes ("/*?\nclass createFoo\ncreatecreateFoo()\n" ++
      "createFoo#createFoo() -> X\ncreateFoo.createFoo() -> X\ncreateFoo.##createFoo() -> X\n**/")⟩]
    ∃ t, (parseScripts scripts).1 = .ok t ∧ t.entities = [0, 1, 2, 3, 4] ∧
      (t.entities.map fun h => (t.entity h).label) = [bytes "createFoo", bytes "createcreateFoo",
        bytes "#createFoo", bytes "createFoo", bytes "##createFoo"] ∧
      LastSegment (bytes "createcreateFoo") (t.entity 1).label ∧
      (t.entity 2).label ≠ (t.entity 4).label := by
  intro scripts
  have hview : (parseScripts scripts).1.toOption.map (fun t => (t.entities,
        t.entities.map fun h => (t.entity h).label, (t.entity 1).signature?, (t.entity 1).kind,
        (t.entity 1).key)) =
      some ([0, 1, 2, 3, 4], [bytes "createFoo", bytes "createcreateFoo", bytes "#createFoo",
        bytes "createFoo", bytes "##createFoo"], some ⟨bytes "createFoo", [], [bytes "createFoo"]⟩,
        .constructor, bytes "createcreateFoo") := by
    decide
  have hview' : (parseScripts scripts).1.toOption.map (fun t => ((t.entity 2).kind,
        (t.entity 4).kind, t.owner? (t.entity 2).key, t.owner? (t.entity 4).key)) =
      some (.instanceMethod, .classMethod, some 0, some 0) := by
    decide
  obtain ⟨t, hparse, hentity⟩ := exists_tree_of_view hview
  obtain ⟨t', hparse', hentity'⟩ := exists_tree_of_view hview'
  obtain rfl : t = t' := Except.ok.inj (hparse.symm.trans hparse')
  simp only [Prod.mk.injEq] at hentity hentity'
  obtain ⟨hentities, hlabels, hsignature, hkind, hkey⟩ := hentity
  obtain ⟨hkind₂, hkind₄, howner₂, howner₄⟩ := hentity'
  have hmem : ∀ h ∈ [0, 1, 2, 3, 4], h ∈ t.entities := fun h hh => hentities ▸ hh
  obtain ⟨-, hforms, hdistinct⟩ := labels_identify_members scripts t hparse
  have hsegment := (hforms 1 (hmem 1 (by decide)) _ hsignature (by decide)).2.2 hkind
  refine ⟨t, hparse, hentities, hlabels, ?_, ?_⟩
  · have htrim : Bytes.trimPrefix (bytes "new ") (bytes "createcreateFoo") =
        bytes "createcreateFoo" := by decide
    rwa [hkey, htrim] at hsegment
  · exact hdistinct 2 (hmem 2 (by decide)) 4 (hmem 4 (by decide)) (Or.inl hkind₂) (Or.inr hkind₄) 0
      howner₂ howner₄ (by decide)

end DocPages
