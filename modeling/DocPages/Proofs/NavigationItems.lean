import DocPages.Proofs.MarkupShapes

/-!
# Completeness of the Navigation

A reader of the navigation list goes through its marks and keeps the items that are open, innermost
first.  The end of a link completes the item that it stands in, and the item that is open around it is
the one that it is listed below.  The reader knows nothing of entities: a list without items is read as
no items, whatever the tree holds.

The items read from the navigation of an accepted list of scripts are those of its places, and so there
is one for each entity of the index.

## Main definitions

- `NavItem`, `navItems`: what is read from a navigation list
- `Entity.navItem`: what the item of an entity shows

## Main results

- `Tree.navItems_navigation`: the items that are read are those of the places of the outline
- `navigation_complete`: the navigation of every accepted list of scripts is complete
-/

namespace DocPages

open Html

/-! ## §1 Reading items -/

/-- An item of a navigation list: the class of its element, and the target, the title and the label of
    its link. -/
structure NavItem where
  style : Bytes
  target : Bytes
  title : Bytes
  label : Bytes
  deriving DecidableEq, Repr

namespace NavItem

/-- The value of the attribute of a name. -/
def valueOf (name : Bytes) (attributes : List Attribute) : Bytes :=
  ((attributes.find? (·.name == name)).map Attribute.value).getD []

/-- An item whose element begins. -/
def begin (attributes : List Attribute) : NavItem :=
  ⟨valueOf (bytes "class") attributes, [], [], []⟩

/-- An item whose link begins. -/
def link (attributes : List Attribute) (item : NavItem) : NavItem :=
  { item with target := valueOf (bytes "href") attributes, title := valueOf (bytes "title") attributes }

/-- An item with more text in its label. -/
def addLabel (s : Bytes) (item : NavItem) : NavItem := { item with label := item.label ++ s }

/-- An open item that is complete, with the item around it. -/
def completed : List NavItem → List (NavItem × Option NavItem)
  | [] => []
  | item :: above => [(item, above.head?)]

@[simp]
theorem addLabel_nil : addLabel [] = id := by
  funext item
  simp [addLabel]

theorem addLabel_append (s u : Bytes) : addLabel (s ++ u) = addLabel u ∘ addLabel s := by
  funext item
  simp [addLabel]

end NavItem

/-- The items completed by marks, with the items that they are below, when some are open. -/
def readItems (opened : List NavItem) : List Mark → List (NavItem × Option NavItem)
  | [] => []
  | .opening name attributes :: marks =>
    if name = bytes "li" then readItems (NavItem.begin attributes :: opened) marks
    else if name = bytes "a" then readItems (opened.modifyHead (NavItem.link attributes)) marks
    else readItems opened marks
  | .text s :: marks => readItems (opened.modifyHead (NavItem.addLabel s)) marks
  | .closing name :: marks =>
    if name = bytes "a" then NavItem.completed opened ++ readItems opened marks
    else if name = bytes "li" then readItems opened.tail marks
    else readItems opened marks
  | .unfinished :: marks => readItems opened marks

/-- The items of a written navigation list. -/
def navItems (s : Bytes) : List (NavItem × Option NavItem) :=
  readItems [] ((readMarks s).map Mark.decoded)

theorem readItems_textMark (opened : List NavItem) (run : Bytes) (marks : List Mark) :
    readItems opened (textMark run ++ marks) =
      readItems (opened.modifyHead (NavItem.addLabel run)) marks := by
  unfold textMark
  split
  · next hempty => simp [List.isEmpty_iff.1 hempty]
  · rfl

/-- It makes no difference to the items whether a text is read in one run or in several. -/
theorem readItems_joinTexts (opened : List NavItem) (run : Bytes) (marks : List Mark) :
    readItems opened (joinTexts run marks) =
      readItems (opened.modifyHead (NavItem.addLabel run)) marks := by
  induction marks generalizing opened run with
  | nil => simpa [joinTexts] using readItems_textMark opened run []
  | cons mark marks ih =>
    have hrest : ∀ opened, readItems opened (joinTexts [] marks) = readItems opened marks := by
      intro opened
      simpa using ih opened []
    cases mark with
    | text s =>
      rw [joinTexts, ih, NavItem.addLabel_append, readItems, List.modifyHead_modifyHead]
    | opening | closing | unfinished =>
      rw [joinTexts_tag rfl, readItems_textMark]
      simp only [readItems, hrest]

theorem readItems_closing_li (opened : List NavItem) (marks : List Mark) :
    readItems opened (.closing (bytes "li") :: marks) = readItems opened.tail marks := by
  have hend : bytes "li" ≠ bytes "a" := by decide
  rw [readItems, if_neg hend, if_pos rfl]

/-- A list is read as what is in it. -/
theorem readItems_list {opened : List NavItem} (attributes : List Attribute) {inner marks : List Mark}
    {items : List (NavItem × Option NavItem)}
    (h : ∀ marks, readItems opened (inner ++ marks) = items ++ readItems opened marks) :
    readItems opened (element (bytes "ul") attributes inner ++ marks) =
      items ++ readItems opened marks := by
  have hitem : bytes "ul" ≠ bytes "li" := by decide
  have hlink : bytes "ul" ≠ bytes "a" := by decide
  rw [element, List.cons_append, List.append_assoc, readItems, if_neg hitem, if_neg hlink, h]
  rw [List.singleton_append, readItems, if_neg hlink, if_neg hitem]

/-! ## §2 The items of entities -/

/-- What the item of an entity shows. -/
def Entity.navItem (e : Entity) : NavItem where
  style := bytes "type-" ++ e.kind.name
  target := href e.key
  title := e.key ++ bytes " (" ++ e.kind.name ++ bytes ")"
  label := e.label

/-- An item shows the kind and the key of its entity. -/
theorem Entity.key_eq_of_navItem_eq {e e' : Entity} (h : e.navItem = e'.navItem) :
    e.key = e'.key := by
  have hkind : e.kind.name = e'.kind.name := List.append_cancel_left (congrArg NavItem.style h)
  have htitle := congrArg NavItem.title h
  simp only [navItem, hkind, List.append_assoc] at htitle
  exact List.append_cancel_right htitle

/-- The item of an entity is completed by its link, and stands open around what is inside. -/
theorem readItems_itemMarks (opened : List NavItem) (e : Entity) (inner marks : List Mark) :
    readItems opened (e.itemMarks inner ++ marks) =
      (e.navItem, opened.head?) ::
        readItems (e.navItem :: opened) (inner ++ .closing (bytes "li") :: marks) := by
  have hlink : bytes "a" ≠ bytes "li" := by decide
  have hitem : ∀ title, NavItem.addLabel e.label
      (NavItem.link [⟨bytes "href", href e.key⟩, ⟨bytes "title", title⟩]
        (NavItem.begin [⟨bytes "class", bytes "type-" ++ e.kind.name⟩])) =
      { e.navItem with title := title } := fun _ => rfl
  simp only [Entity.itemMarks, element, List.cons_append, List.append_assoc, List.nil_append, readItems,
    if_true, if_neg hlink, List.modifyHead_cons, hitem, NavItem.completed]
  simp [Entity.navItem]

theorem readItems_itemsMarks (opened : List NavItem) (es : List Entity) (marks : List Mark) :
    readItems opened (itemsMarks es ++ marks) =
      es.map (fun e => (e.navItem, opened.head?)) ++ readItems opened marks := by
  induction es with
  | nil => rfl
  | cons e es ih =>
    rw [itemsMarks, List.flatMap_cons, ← itemsMarks, List.append_assoc, readItems_itemMarks,
      List.nil_append, readItems_closing_li, List.tail_cons, ih]
    rfl

namespace Tree

variable (t : Tree)

/-- What is shown at a place: the item of the entity, and the item of the class that it is below. -/
def shownAt (p : Placement) : NavItem × Option NavItem :=
  ((t.entity p.entity).navItem, p.under.map fun c => (t.entity c).navItem)

/-- A top-level item is read with the items of its members. -/
theorem readItems_rootItemMarks (h : Handle) (marks : List Mark) :
    readItems [] (t.rootItemMarks (t.entity h) ++ marks) =
      (itemPlacements (h, (t.entity h).members)).map t.shownAt ++ readItems [] marks := by
  rw [rootItemMarks, readItems_itemMarks]
  cases hclass : (t.entity h).isClass with
  | false =>
    simp [readItems_closing_li, Entity.members_eq_nil hclass, itemPlacements, shownAt]
  | true =>
    have hmembers := readItems_itemsMarks [(t.entity h).navItem] (t.resolve (t.entity h).members)
    rw [if_pos rfl, readItems_list [] hmembers, readItems_closing_li]
    simp [itemPlacements, shownAt, resolve]

theorem readItems_rootItems (root : List Handle) (marks : List Mark) :
    readItems [] ((t.resolve root).flatMap t.rootItemMarks ++ marks) =
      (placements (root.map fun h => (h, (t.entity h).members))).map t.shownAt ++
        readItems [] marks := by
  induction root with
  | nil => rfl
  | cons h root ih =>
    simp only [resolve, placements, List.map_cons, List.flatMap_cons, List.append_assoc,
      readItems_rootItemMarks, List.map_append] at ih ⊢
    rw [ih]

/-- The items that are read from the navigation are those of the places of the outline. -/
theorem navItems_navigation : navItems t.navigation = (placements t.outline).map t.shownAt := by
  have hmarks : t.navigationMarks = t.navigationMarks ++ [] := (List.append_nil _).symm
  rw [navItems, t.writes_navigation.readMarks_decoded, readItems_joinTexts, List.modifyHead_nil, hmarks,
    navigationMarks, readItems_list _ (t.readItems_rootItems t.root), readItems, List.append_nil]
  rfl

end Tree

/-! ## §3 One item for each entity -/

/-- **Completeness of the navigation**: in the tree of an accepted list of scripts classes stand at
    the top level only.  The items that are read from the navigation list are, up to order, one for
    each entity of the index, with its kind, target, key and label, below the item of its owner when it
    has one and at the top level otherwise; and no two entities have the same item. -/
theorem navigation_complete (scripts : List Script) (t : Tree)
    (hparse : (parseScripts scripts).1 = .ok t) :
    (∀ c ∈ t.entities, (t.entity c).isClass = true →
        c ∈ t.root ∧ ∀ c' ∈ t.entities, c ∉ (t.entity c').members) ∧
      navItems t.navigation = (Tree.placements t.outline).map t.shownAt ∧
      t.entities.Nodup ∧
      (Tree.placements t.outline).Perm
        (t.entities.map fun h => ⟨h, t.owner? (t.entity h).key⟩) ∧
      (navItems t.navigation).Perm
        (t.entities.map fun h => ((t.entity h).navItem,
          (t.owner? (t.entity h).key).map fun c => (t.entity c).navItem)) ∧
      ((navItems t.navigation).map Prod.fst).Nodup := by
  have ht := parseScripts_nested hparse
  have hitems : (navItems t.navigation).Perm
      (t.entities.map fun h => ((t.entity h).navItem,
        (t.owner? (t.entity h).key).map fun c => (t.entity c).navItem)) := by
    rw [t.navItems_navigation]
    simpa [Function.comp_def, Tree.shownAt] using ht.placements_perm.map t.shownAt
  refine ⟨?_, t.navItems_navigation, ht.invariant.entities_nodup, ht.placements_perm, hitems, ?_⟩
  · intro c hc hclass
    have hindexed : t.IsIndexedClass c := ⟨_, (ht.invariant.mem_entities_iff c).1 hc, hclass⟩
    refine ⟨ht.class_mem_root hindexed, ?_⟩
    intro c' hc' hmem
    have hindex' := (ht.invariant.mem_entities_iff c').1 hc'
    cases hclass' : (t.entity c').isClass with
    | false => simp [Entity.members_eq_nil hclass'] at hmem
    | true =>
      rw [ht.member_not_class ⟨_, hindex', hclass'⟩ hmem] at hclass
      exact absurd hclass Bool.false_ne_true
  · rw [(hitems.map Prod.fst).nodup_iff, List.map_map]
    -- entities with the same item have the same key, and the index holds a key once
    refine List.Nodup.map_on ?_ ht.invariant.entities_nodup
    intro h hh h' hh' heq
    have hindex := (ht.invariant.mem_entities_iff h).1 hh
    have hindex' := (ht.invariant.mem_entities_iff h').1 hh'
    rw [Entity.key_eq_of_navItem_eq heq, hindex'] at hindex
    exact (Option.some.inj hindex).symm

/-- A method declared before its class, then adopted by it, and a class declared twice: four items are
    read, two of them below a class. -/
theorem navigation_complete_after_adoption :
    let scripts : List Script :=
      [⟨bytes "a.js", bytes "/*?\nclass Foo\nFoo#bar() -> X\nBaz.qux() -> Y\n**/"⟩,
        ⟨bytes "b.js", bytes "/*?\nclass Foo\nclass Baz\nBaz.qux() -> Y\n**/"⟩]
    let foo : NavItem := ⟨bytes "type-class", bytes "Foo.html", bytes "Foo (class)", bytes "Foo"⟩
    let bar : NavItem := ⟨bytes "type-instance-method", bytes "Foo.prototype.bar.html",
      bytes "Foo#bar (instance-method)", bytes "#bar"⟩
    let baz : NavItem := ⟨bytes "type-class", bytes "Baz.html", bytes "Baz (class)", bytes "Baz"⟩
    let qux : NavItem := ⟨bytes "type-class-method", bytes "Baz.qux.html",
      bytes "Baz.qux (class-method)", bytes "qux"⟩
    let items := [(foo, none), (bar, some foo), (baz, none), (qux, some baz)]
    ∃ t, (parseScripts scripts).1 = .ok t ∧ navItems t.navigation = items ∧
      items.Perm (t.entities.map fun h => ((t.entity h).navItem,
        (t.owner? (t.entity h).key).map fun c => (t.entity c).navItem)) ∧
      (items.map Prod.fst).Nodup := by
  intro scripts foo bar baz qux items
  have hview : (parseScripts scripts).1.toOption.map
      (fun t => (Tree.placements t.outline).map t.shownAt) = some items := by decide
  obtain ⟨t, hparse, hplaces⟩ := exists_tree_of_view hview
  obtain ⟨-, hread, -, -, hperm, hnodup⟩ := navigation_complete scripts t hparse
  have hitems : navItems t.navigation = items := hread.trans hplaces
  rw [hitems] at hperm hnodup
  exact ⟨t, hparse, hitems, hperm, hnodup⟩

end DocPages
