import DocPages.Proofs.MarkupReading
import DocPages.Proofs.PageLinks

/-!
# Texts Add No Tags

Keys, names, defaults, types and other forms of calling come from comments and may hold any bytes.
They stand in element content and in the values of attributes, and a page must show them as they are
without letting them change its elements.

The marks of each part of a page are given with the texts themselves, and every part is shown to be
put together from them.  What decides the tags is then the shape of an entity: its kind, the kinds of
its members, and for each type and each form of calling one answer.  Which arguments may be left out,
which have a default and how long a label is make no difference to the tags.

## Main definitions

- `Tree.navigationMarks`, `Tree.signatureMarks`, `Tree.argumentsMarks`, `Tree.classOverviewMarks`
- `Shape`, `Tree.shape`: an entity without its texts
- `Tree.SameShape`: two trees that differ in their texts only

## Main results

- `Tree.writes_navigation`, `Tree.writes_signatureMarkup`, `Tree.writes_argumentsMarkup`,
  `Tree.writes_classOverview`: what each part is made of
- `texts_add_no_tags`: trees of one shape have the same tags, and their texts are read back
-/

namespace DocPages

open Html

/-! ## §1 Lists of entities -/

/-- The marks of a list item with a link to an entity. -/
def Entity.itemMarks (e : Entity) (inner : List Mark) : List Mark :=
  element (bytes "li") [⟨bytes "class", bytes "type-" ++ e.kind.name⟩]
    (element (bytes "a") [⟨bytes "href", href e.key⟩,
        ⟨bytes "title", e.key ++ bytes " (" ++ e.kind.name ++ bytes ")"⟩] [.text e.label] ++ inner)

/-- The marks of closed list items. -/
def itemsMarks (es : List Entity) : List Mark := es.flatMap fun e => e.itemMarks []

/-- The marks of a flat list of entities. -/
def entityListMarks (es : List Entity) : List Mark :=
  element (bytes "ul") [⟨bytes "class", bytes "api-list"⟩] (itemsMarks es)

theorem Kind.literal_name (k : Kind) : Spells.Literal k.name := by cases k <;> decide

/-- A list item with what is written below its link. -/
theorem Entity.writes_item (e : Entity) {x : Bytes} {ms : List Mark} (h : Writes x ms) :
    Writes (e.item ++ x ++ bytes "</li>") (e.itemMarks ms) := by
  have hkind := Spells.literal e.kind.literal_name
  have hclass : Spells (bytes "type-" ++ e.kind.name) (bytes "type-" ++ e.kind.name) :=
    (Spells.literal (by decide)).append hkind
  have htitle : Spells (escape e.key ++ bytes " (" ++ e.kind.name ++ bytes ")")
      (e.key ++ bytes " (" ++ e.kind.name ++ bytes ")") :=
    (((Spells.escape e.key).append (.literal (by decide))).append hkind).append (.literal (by decide))
  have hlink : Writes
      (openTag (bytes "a") [⟨bytes "href", escape (href e.key)⟩,
          ⟨bytes "title", escape e.key ++ bytes " (" ++ e.kind.name ++ bytes ")"⟩] ++
        escape e.label ++ closeTag (bytes "a")) _ :=
    .element (by decide) (.cons (.intro (by decide) (.escape _)) (.cons (.intro (by decide) htitle) .nil))
      (.text (.escape e.label))
  have hname : ElementName (bytes "li") := by decide
  refine (Writes.classed hname hclass (hlink.append h)).of_eq ?_
  simp only [Entity.item, List.append_assoc]
  simp only [openTag_append, List.foldr_cons, List.foldr_nil, List.append_assoc]
  rfl

theorem writes_items (es : List Entity) : Writes (items es) (itemsMarks es) := by
  apply Writes.flatMap
  intro e _
  have hitem := e.writes_item .nil
  rwa [List.append_nil] at hitem

/-- What stands in the list of a page. -/
theorem writes_list {x : Bytes} {ms : List Mark} (h : Writes x ms) :
    Writes (bytes "<ul class=\"api-list\">" ++ x ++ bytes "</ul>")
      (element (bytes "ul") [⟨bytes "class", bytes "api-list"⟩] ms) := by
  have hname : ElementName (bytes "ul") := by decide
  have hclass : Spells (bytes "api-list") (bytes "api-list") := .literal (by decide)
  exact (Writes.classed hname hclass h).of_eq rfl

theorem writes_entityList (es : List Entity) : Writes (entityList es) (entityListMarks es) :=
  writes_list (writes_items es)

namespace Tree

variable (t : Tree)

/-- The marks of a top-level item. -/
def rootItemMarks (e : Entity) : List Mark :=
  e.itemMarks (if e.isClass then element (bytes "ul") [] (itemsMarks (t.resolve e.members)) else [])

/-- The marks of the navigation list. -/
def navigationMarks : List Mark :=
  element (bytes "ul") [⟨bytes "class", bytes "api-list"⟩] ((t.resolve t.root).flatMap t.rootItemMarks)

theorem writes_rootItem (e : Entity) : Writes (t.rootItem e) (t.rootItemMarks e) := by
  apply e.writes_item
  split
  · have hname : ElementName (bytes "ul") := by decide
    exact (Writes.bare hname (writes_items _)).of_eq rfl
  · exact .nil

theorem writes_navigation : Writes t.navigation t.navigationMarks :=
  writes_list (Writes.flatMap fun e _ => t.writes_rootItem e)

/-- The marks of one section of a class overview. -/
def sectionMarks (name title : Bytes) (closing : List Mark) (es : List Entity) : List Mark :=
  if es.isEmpty then []
  else
    element (bytes "div") [⟨bytes "class", name⟩]
      (element (bytes "h3") [] [.text title] ++ entityListMarks es ++ closing)

/-- The marks of the element that ends the floating of a section. -/
def clearingMarks : List Mark := element (bytes "div") [⟨bytes "style", bytes "clear:both;"⟩] []

/-- The marks of the overview of a class. -/
def classOverviewMarks (h : Handle) : List Mark :=
  .opening voidName [] ::
    (sectionMarks (bytes "constructor") (bytes "Constructor") clearingMarks
        (t.resolve (t.constructor? h).toList) ++
      sectionMarks (bytes "instance-methods") (bytes "Instance methods") clearingMarks
        (t.resolve (t.membersOf h .instanceMethod)) ++
      sectionMarks (bytes "class-methods") (bytes "Class methods") []
        (t.resolve (t.membersOf h .classMethod)))

theorem writes_clearing : Writes clearing clearingMarks := by
  have hname : ElementName (bytes "div") := by decide
  have hstyle : Attribute.Spells ⟨bytes "style", bytes "clear:both;"⟩
      ⟨bytes "style", bytes "clear:both;"⟩ := .intro (by decide) (.literal (by decide))
  exact (Writes.element hname (.cons hstyle .nil) .nil).of_eq rfl

theorem writes_overviewSection {name title closing : Bytes} {marks : List Mark}
    (hname : Spells.Literal name) (htitle : Spells.Literal title) (hclosing : Writes closing marks)
    (es : List Entity) :
    Writes (overviewSection name title closing es) (sectionMarks name title marks es) := by
  unfold overviewSection sectionMarks
  split
  · exact .nil
  · have hdiv : ElementName (bytes "div") := by decide
    have hheading : ElementName (bytes "h3") := by decide
    have hinner := ((Writes.bare hheading (.text (.literal htitle))).append
      (writes_entityList es)).append hclosing
    refine (Writes.classed hdiv (.literal hname) hinner).of_eq ?_
    simp only [List.append_assoc]
    simp only [openTag_append, List.foldr_cons, List.foldr_nil]
    rfl

theorem writes_classOverview (h : Handle) : Writes (t.classOverview h) (t.classOverviewMarks h) := by
  have hconstructor : Writes (overviewSection (bytes "constructor") (bytes "Constructor") clearing
      (t.resolve (t.constructor? h).toList)) _ :=
    writes_overviewSection (by decide) (by decide) writes_clearing _
  have hinstance : Writes (overviewSection (bytes "instance-methods") (bytes "Instance methods") clearing
      (t.resolve (t.membersOf h .instanceMethod))) _ :=
    writes_overviewSection (by decide) (by decide) writes_clearing _
  have hclass : Writes (overviewSection (bytes "class-methods") (bytes "Class methods") []
      (t.resolve (t.membersOf h .classMethod))) _ :=
    writes_overviewSection (by decide) (by decide) .nil _
  exact (((Writes.rule.append hconstructor).append hinstance).append hclass).of_eq rfl

/-! ## §2 One entity -/

/-- The marks of a type name. -/
def typeMarks (name : Bytes) : List Mark :=
  if t.has name then element (bytes "a") [⟨bytes "href", href name⟩] [.text name] else [.text name]

/-- The marks of types in a row, each in an element of its own. -/
def typeRowMarks (tag sep : Bytes) (types : List Bytes) : List Mark :=
  [.text sep].intercalate (types.map fun name =>
    element tag [⟨bytes "class", bytes "object-" ++ name⟩] (t.typeMarks name))

/-- The marks of the types of a result. -/
def returnsMarks (returns : List Bytes) : List Mark :=
  if returns.isEmpty then []
  else
    .text (bytes " → ") :: element (bytes "span") [⟨bytes "class", bytes "return"⟩]
      (t.typeRowMarks (bytes "span") (bytes " | ") returns)

/-- The marks of the other forms of calling a constructor. -/
def aliasMarks (e : Entity) : List Mark :=
  (e.aliases.filter (· != e.key)).flatMap fun a =>
    .text (bytes "\n") :: element (bytes "span") [⟨bytes "class", bytes "alias"⟩] [.text a]

/-- The marks of a signature. -/
def signatureMarks (e : Entity) : List Mark :=
  match e.signature? with
  | none => []
  | some s =>
    element (bytes "span") [⟨bytes "class", bytes "key"⟩] [.text e.key] ++ [.text (bytes "(")] ++
      element (bytes "span") [⟨bytes "class", bytes "arguments"⟩] [.text s.argumentsText] ++
      [.text (bytes ")")] ++ t.returnsMarks s.returns ++ aliasMarks e

/-- The marks of the types of an argument. -/
def argumentTypesMarks (types : List Bytes) : List Mark :=
  if types.isEmpty then [.text (bytes "?")] else t.typeRowMarks (bytes "code") (bytes "|") types

/-- The marks of the note on an argument without a description. -/
def argumentMarks (a : Argument) : List Mark :=
  element (bytes "li") []
    (element (bytes "code") [⟨bytes "class", bytes "argument-name"⟩] [.text a.name] ++
      [.text (bytes " (")] ++ t.argumentTypesMarks a.types ++ [.text (bytes ") – ")])

/-- The marks of the notes on arguments. -/
def argumentsMarks (e : Entity) : List Mark := e.arguments.flatMap t.argumentMarks

theorem writes_typeLink (name : Bytes) : Writes (t.typeLink name) (t.typeMarks name) := by
  unfold typeLink typeMarks
  split
  · have hname : ElementName (bytes "a") := by decide
    have hhref : Attribute.Spells ⟨bytes "href", escape (href name)⟩ ⟨bytes "href", href name⟩ :=
      .intro (by decide) (.escape (href name))
    refine (Writes.element hname (.cons hhref .nil) (.text (.escape name))).of_eq ?_
    simp only [List.append_assoc]
    simp only [openTag_append, List.foldr_cons, List.foldr_nil]
    rfl
  · exact .text (.escape name)

/-- Types in a row, whose elements are written with a name for the class of each. -/
theorem writes_typeRow {tag sep before : Bytes} (htag : ElementName tag) (hsep : Spells.Literal sep)
    (hbefore : before = byte '<' :: (tag ++ bytes " class=\"object-")) (types : List Bytes) :
    Writes (Bytes.join sep (types.map fun name =>
        before ++ escape name ++ bytes "\">" ++ t.typeLink name ++ closeTag tag))
      (t.typeRowMarks tag sep types) := by
  apply Writes.join (.literal hsep)
  intro name _
  have hclass : Spells (bytes "object-" ++ escape name) (bytes "object-" ++ name) :=
    (Spells.literal (by decide)).append (.escape name)
  refine (Writes.classed htag hclass (t.writes_typeLink name)).of_eq ?_
  subst hbefore
  simp only [List.append_assoc]
  simp only [openTag_append, List.foldr_cons, List.foldr_nil, List.append_assoc, List.cons_append]
  rfl

theorem spells_arrow : Spells (bytes " &rarr; ") (bytes " → ") := by
  have hspace : Spells (bytes " ") (bytes " ") := .literal (by decide)
  have hname : Spells (byte '&' :: (bytes "rarr" ++ [byte ';'])) (bytes "→") :=
    .named (by decide) (by decide) character?_rarr (by decide)
  exact (hspace.append hname).append hspace

theorem writes_returnsMarkup (returns : List Bytes) :
    Writes (t.returnsMarkup returns) (t.returnsMarks returns) := by
  unfold returnsMarkup returnsMarks
  split
  · exact .nil
  · have hname : ElementName (bytes "span") := by decide
    have hclass : Spells (bytes "return") (bytes "return") := .literal (by decide)
    have hsep : Spells.Literal (bytes " | ") := by decide
    have hrow := t.writes_typeRow hname hsep rfl returns
    refine ((Writes.text spells_arrow).append (Writes.classed hname hclass hrow)).of_eq ?_
    simp only [List.append_assoc]
    simp only [openTag_append, List.foldr_cons, List.foldr_nil]
    rfl

theorem writes_aliasMarkup (e : Entity) : Writes (aliasMarkup e) (aliasMarks e) := by
  apply Writes.flatMap
  intro a _
  have hname : ElementName (bytes "span") := by decide
  have hclass : Spells (bytes "alias") (bytes "alias") := .literal (by decide)
  have hline : Spells (bytes "\n") (bytes "\n") := .literal (by decide)
  refine ((Writes.text hline).append (Writes.classed hname hclass (.text (.escape a)))).of_eq ?_
  simp only [List.append_assoc]
  simp only [openTag_append, List.foldr_cons, List.foldr_nil]
  rfl

theorem writes_signatureMarkup (e : Entity) :
    Writes (t.signatureMarkup e) (t.signatureMarks e) := by
  unfold signatureMarkup signatureMarks
  cases e.signature? with
  | none => exact .nil
  | some s =>
    have hname : ElementName (bytes "span") := by decide
    have hkey : Spells (bytes "key") (bytes "key") := .literal (by decide)
    have harguments : Spells (bytes "arguments") (bytes "arguments") := .literal (by decide)
    have hopen : Spells (bytes "(") (bytes "(") := .literal (by decide)
    have hclose : Spells (bytes ")") (bytes ")") := .literal (by decide)
    have hcall := (((Writes.classed hname hkey (.text (.escape e.key))).append (.text hopen)).append
      (Writes.classed hname harguments (.text (.escape s.argumentsText)))).append (.text hclose)
    refine ((hcall.append (t.writes_returnsMarkup s.returns)).append (writes_aliasMarkup e)).of_eq ?_
    simp only [List.append_assoc]
    simp only [openTag_append, List.foldr_cons, List.foldr_nil]
    rfl

theorem writes_argumentTypes (types : List Bytes) :
    Writes (t.argumentTypes types) (t.argumentTypesMarks types) := by
  unfold argumentTypes argumentTypesMarks
  split
  · exact .text (.literal (by decide))
  · have hname : ElementName (bytes "code") := by decide
    exact t.writes_typeRow hname (by decide) rfl types

theorem writes_argument (a : Argument) :
    Writes (t.argumentHead a ++ bytes "</li>") (t.argumentMarks a) := by
  have hitem : ElementName (bytes "li") := by decide
  have hcode : ElementName (bytes "code") := by decide
  have hclass : Spells (bytes "argument-name") (bytes "argument-name") := .literal (by decide)
  have hopen : Spells (bytes " (") (bytes " (") := .literal (by decide)
  have hdash : Spells (bytes ") – ") (bytes ") – ") := .literal (by decide)
  have hinner := (((Writes.classed hcode hclass (.text (.escape a.name))).append (.text hopen)).append
    (t.writes_argumentTypes a.types)).append (.text hdash)
  refine (Writes.bare hitem hinner).of_eq ?_
  simp only [argumentHead, List.append_assoc]
  simp only [openTag_append, List.foldr_cons, List.foldr_nil]
  rfl

end Tree

/-- Whether the arguments of an entity have no descriptions, which may hold markup of their own. -/
def Entity.Undescribed (e : Entity) : Prop := ∀ a ∈ e.arguments, a.description = []

instance (e : Entity) : Decidable e.Undescribed := List.decidableBAll _ e.arguments

theorem Tree.writes_argumentsMarkup (t : Tree) {e : Entity} (h : e.Undescribed) :
    Writes (t.argumentsMarkup e) (t.argumentsMarks e) := by
  rw [t.argumentsMarkup_eq]
  apply Writes.flatMap
  intro a ha
  rw [h a ha, List.append_nil]
  exact t.writes_argument a

/-! ## §3 What decides the tags -/

theorem isEmpty_eq_of_map_eq {α β κ : Type} {k : α → κ} {k' : β → κ} {xs : List α} {ys : List β}
    (h : xs.map k = ys.map k') : xs.isEmpty = ys.isEmpty := by
  simpa using congrArg List.isEmpty h

/-- An entity without its texts: its kind, the kinds of its members, whether each type is a key, and
    whether each form of calling is the key itself. -/
structure Shape where
  kind : Kind
  members : List Kind
  /-- For each argument, the answers for its types. -/
  arguments : List (List Bool)
  returns : List Bool
  aliases : List Bool
  deriving DecidableEq, Repr

/-- The shape of an entity in its tree. -/
def Tree.shape (t : Tree) (e : Entity) : Shape where
  kind := e.kind
  members := (t.resolve e.members).map Entity.kind
  arguments := e.arguments.map fun a => a.types.map t.has
  returns := e.returns.map t.has
  aliases := e.aliases.map (· == e.key)

theorem Entity.isClass_eq (e : Entity) : e.isClass = decide (e.kind = .classEntity) := by
  obtain ⟨key, text, source, line, body⟩ := e
  cases body with
  | classBody members => rfl
  | constructorBody s aliases => rfl
  | methodBody static s => cases static <;> rfl

theorem tags_itemMarks (e e' : Entity) {ms ms' : List Mark} (h : tags ms = tags ms') :
    tags (e.itemMarks ms) = tags (e'.itemMarks ms') := by
  simp [Entity.itemMarks, h]

theorem tags_itemsMarks {es es' : List Entity} (h : es.map Entity.kind = es'.map Entity.kind) :
    tags (itemsMarks es) = tags (itemsMarks es') :=
  tags_flatMap_congr h fun e e' _ => tags_itemMarks e e' rfl

namespace Tree

theorem tags_sectionMarks {es es' : List Entity} (h : es.map Entity.kind = es'.map Entity.kind)
    (name title : Bytes) (closing : List Mark) :
    tags (sectionMarks name title closing es) = tags (sectionMarks name title closing es') := by
  unfold sectionMarks
  rw [isEmpty_eq_of_map_eq h]
  split
  · rfl
  · simp [entityListMarks, tags_itemsMarks h]

variable {t t' : Tree}

/-- The members of a kind are told by the kinds of the members. -/
theorem kinds_membersOf (t : Tree) (c : Handle) (k : Kind) :
    (t.resolve (t.membersOf c k)).map Entity.kind =
      (t.shape (t.entity c)).members.filter (· = k) := by
  simp [resolve, membersOf, shape, List.filter_map, Function.comp_def]

theorem kinds_constructor? (t : Tree) (c : Handle) :
    (t.resolve (t.constructor? c).toList).map Entity.kind =
      ((t.shape (t.entity c)).members.find? (· = .constructor)).toList := by
  simp only [resolve, constructor?, shape, List.map_map, List.find?_map, Option.toList_map]
  rfl

theorem tags_rootItemMarks {e e' : Entity} (h : t.shape e = t'.shape e') :
    tags (t.rootItemMarks e) = tags (t'.rootItemMarks e') := by
  have hkind : e.kind = e'.kind := congrArg Shape.kind h
  have hmembers := tags_itemsMarks (congrArg Shape.members h)
  apply tags_itemMarks
  rw [e.isClass_eq, e'.isClass_eq, hkind]
  split
  · simp [hmembers]
  · rfl

theorem tags_classOverviewMarks {c c' : Handle}
    (h : t.shape (t.entity c) = t'.shape (t'.entity c')) :
    tags (t.classOverviewMarks c) = tags (t'.classOverviewMarks c') := by
  have hof : ∀ k, (t.resolve (t.membersOf c k)).map Entity.kind =
      (t'.resolve (t'.membersOf c' k)).map Entity.kind := by
    intro k
    rw [kinds_membersOf, kinds_membersOf, h]
  have hconstructor : (t.resolve (t.constructor? c).toList).map Entity.kind =
      (t'.resolve (t'.constructor? c').toList).map Entity.kind := by
    rw [kinds_constructor?, kinds_constructor?, h]
  show _ :: tags _ = _ :: tags _
  rw [tags_append, tags_append, tags_append, tags_append, tags_sectionMarks hconstructor,
    tags_sectionMarks (hof _), tags_sectionMarks (hof _)]

theorem tags_typeRowMarks (tag sep : Bytes) {types types' : List Bytes}
    (h : types.map t.has = types'.map t'.has) :
    tags (t.typeRowMarks tag sep types) = tags (t'.typeRowMarks tag sep types') := by
  unfold typeRowMarks
  rw [tags_intercalate, tags_intercalate]
  apply tags_flatMap_congr h
  intro name name' hhas
  have hlink : tags (t.typeMarks name) = tags (t'.typeMarks name') := by
    unfold typeMarks
    rw [hhas]
    split <;> simp
  simp [hlink]

theorem tags_returnsMarks {returns returns' : List Bytes}
    (h : returns.map t.has = returns'.map t'.has) :
    tags (t.returnsMarks returns) = tags (t'.returnsMarks returns') := by
  unfold returnsMarks
  rw [isEmpty_eq_of_map_eq h]
  split
  · rfl
  · simp [tags_typeRowMarks _ _ h]

theorem tags_aliasMarks {e e' : Entity}
    (h : e.aliases.map (· == e.key) = e'.aliases.map (· == e'.key)) :
    tags (aliasMarks e) = tags (aliasMarks e') := by
  have hother : (e.aliases.filter (· != e.key)).map (· == e.key) =
      (e'.aliases.filter (· != e'.key)).map (· == e'.key) := by
    -- a form is left out when its answer is yes, so the answers alone tell how many stay
    have hfilter := congrArg (List.filter (!·)) h
    rwa [List.filter_map, List.filter_map] at hfilter
  exact tags_flatMap_congr hother fun a a' _ => by simp

/-- The tags of a signature: a class has none, and the texts of the others stand in two elements. -/
theorem tags_signatureMarks (t : Tree) (e : Entity) :
    tags (t.signatureMarks e) =
      if e.kind = .classEntity then []
      else
        tags (element (bytes "span") [⟨bytes "class", []⟩] []) ++
          tags (element (bytes "span") [⟨bytes "class", []⟩] []) ++
          tags (t.returnsMarks e.returns) ++ tags (aliasMarks e) := by
  obtain ⟨key, text, source, line, body⟩ := e
  cases body with
  | classBody members => rfl
  | constructorBody s aliases => simp [signatureMarks, Entity.signature?, Entity.kind, Entity.returns]
  | methodBody static s =>
    cases static <;> simp [signatureMarks, Entity.signature?, Entity.kind, Entity.returns]

theorem tags_signatureMarks_congr {e e' : Entity} (h : t.shape e = t'.shape e') :
    tags (t.signatureMarks e) = tags (t'.signatureMarks e') := by
  have hkind : e.kind = e'.kind := congrArg Shape.kind h
  have hreturns := tags_returnsMarks (congrArg Shape.returns h)
  have haliases := tags_aliasMarks (congrArg Shape.aliases h)
  rw [tags_signatureMarks, tags_signatureMarks, hkind, hreturns, haliases]

theorem tags_argumentsMarks {e e' : Entity} (h : t.shape e = t'.shape e') :
    tags (t.argumentsMarks e) = tags (t'.argumentsMarks e') := by
  apply tags_flatMap_congr (congrArg Shape.arguments h)
  intro a a' htypes
  have hrow : tags (t.argumentTypesMarks a.types) = tags (t'.argumentTypesMarks a'.types) := by
    unfold argumentTypesMarks
    rw [isEmpty_eq_of_map_eq htypes]
    split
    · rfl
    · exact tags_typeRowMarks _ _ htypes
  simp [argumentMarks, hrow]

end Tree

/-! ## §4 Trees of one shape -/

/-- Two trees differ in their texts only: their top-level entities, and all entities in the order of
    their declaration, have the same shapes. -/
structure Tree.SameShape (t t' : Tree) : Prop where
  root : (t.resolve t.root).map t.shape = (t'.resolve t'.root).map t'.shape
  entities : (t.resolve t.entities).map t.shape = (t'.resolve t'.entities).map t'.shape

/-- Two markups are read with the same tags, in which every element is closed in its turn.  With their
    references read, the texts and the values of attributes are those of the marks of each. -/
structure Html.SameReading (x x' : Bytes) (ms ms' : List Mark) : Prop where
  tags_eq : tags (readMarks x) = tags (readMarks x')
  nested : wellNested (tags (readMarks x)) = true
  left : (readMarks x).map Mark.decoded = joinTexts [] ms
  right : (readMarks x').map Mark.decoded = joinTexts [] ms'

theorem Html.Writes.sameReading {x x' : Bytes} {ms ms' : List Mark} (h : Writes x ms)
    (h' : Writes x' ms') (htags : tags ms = tags ms') : SameReading x x' ms ms' where
  tags_eq := by rw [h.tags_readMarks, h'.tags_readMarks, htags]
  nested := h.wellNested_tags
  left := h.readMarks_decoded
  right := h'.readMarks_decoded

/-- **Texts add no tags**: whatever bytes stand in the keys, names, defaults, types and forms of calling
    of two trees of one shape, a reader finds the same tags in their navigation, and in the overview,
    the signature and the undescribed arguments of the entities at one place.  The elements are properly
    nested, and every text and every value of an attribute is read back as it was put there. -/
theorem texts_add_no_tags {t t' : Tree} (h : t.SameShape t') :
    SameReading t.navigation t'.navigation t.navigationMarks t'.navigationMarks ∧
    List.Forall₂ (fun c c' =>
      SameReading (t.classOverview c) (t'.classOverview c')
        (t.classOverviewMarks c) (t'.classOverviewMarks c') ∧
      SameReading (t.signatureMarkup (t.entity c)) (t'.signatureMarkup (t'.entity c'))
        (t.signatureMarks (t.entity c)) (t'.signatureMarks (t'.entity c')) ∧
      ((t.entity c).Undescribed → (t'.entity c').Undescribed →
        SameReading (t.argumentsMarkup (t.entity c)) (t'.argumentsMarkup (t'.entity c'))
          (t.argumentsMarks (t.entity c)) (t'.argumentsMarks (t'.entity c'))))
      t.entities t'.entities := by
  have hroot := tags_flatMap_congr h.root fun e e' => Tree.tags_rootItemMarks
  have hnavigation : tags t.navigationMarks = tags t'.navigationMarks := by
    simp [Tree.navigationMarks, hroot]
  -- the entities at one place have one shape, and their tags follow from it
  have hentities := h.entities
  simp only [Tree.resolve, List.map_map] at hentities
  refine ⟨t.writes_navigation.sameReading t'.writes_navigation hnavigation,
    (forall₂_of_map_eq hentities).imp ?_⟩
  intro c c' hshape
  refine ⟨?_, ?_, ?_⟩
  · apply (t.writes_classOverview c).sameReading (t'.writes_classOverview c')
    exact Tree.tags_classOverviewMarks hshape
  · apply (t.writes_signatureMarkup _).sameReading (t'.writes_signatureMarkup _)
    exact Tree.tags_signatureMarks_congr hshape
  · intro hplain hplain'
    apply (t.writes_argumentsMarkup hplain).sameReading (t'.writes_argumentsMarkup hplain')
    exact Tree.tags_argumentsMarks hshape

/-- A class with a constructor and a class method, whose key, names and types are given texts. -/
def Tree.ofTexts (owner name type : Bytes) : Tree :=
  let call := bytes "new " ++ owner
  let method := owner ++ bytes "." ++ name
  { product := []
    store := #[⟨owner, [], [], 1, .classBody [1, 2]⟩,
      ⟨call, [], [], 2, .constructorBody ⟨owner, [⟨name, false, 0, type, [], []⟩], [owner]⟩ [call, type]⟩,
      ⟨method, [], [], 3, .methodBody true ⟨owner, [⟨name, true, 0, [], [owner, type], []⟩], [type]⟩⟩]
    index := [(owner, 0), (call, 1), (method, 2)]
    order := [owner, call, method]
    owners := [(owner, none), (call, some 0), (method, some 0)]
    classes := [(owner, 0)]
    root := [0] }

/-- Brackets, quotes and references in the texts of a tree: its tags are those of a tree without them,
    and the type of the argument is read back. -/
theorem tags_of_texts_with_markup :
    let plain := Tree.ofTexts (bytes "Foo") (bytes "run") (bytes "x")
    let marked := Tree.ofTexts (bytes "\"><hr>") (bytes "&lt;'") (bytes "</li><b a=\"\r")
    plain.SameShape marked ∧ (plain.entity 2).Undescribed ∧ (marked.entity 2).Undescribed ∧
      tags (readMarks plain.navigation) = tags (readMarks marked.navigation) ∧
      tags (readMarks (plain.argumentsMarkup (plain.entity 2))) =
        tags (readMarks (marked.argumentsMarkup (marked.entity 2))) ∧
      Mark.text (bytes "</li><b a=\"\r") ∈
        (readMarks (marked.argumentsMarkup (marked.entity 2))).map Mark.decoded := by
  intro plain marked
  have hshape : plain.SameShape marked := ⟨by decide, by decide⟩
  have hplain : (plain.entity 2).Undescribed := by decide
  have hmarked : (marked.entity 2).Undescribed := by decide
  have hentities : plain.entities = [0, 1, 2] ∧ marked.entities = [0, 1, 2] := by decide
  obtain ⟨hnavigation, hall⟩ := texts_add_no_tags hshape
  rw [hentities.1, hentities.2] at hall
  simp only [List.forall₂_cons] at hall
  obtain ⟨-, -, ⟨-, -, harguments⟩, -⟩ := hall
  have hmethod := harguments hplain hmarked
  refine ⟨hshape, hplain, hmarked, hnavigation.tags_eq, hmethod.tags_eq, ?_⟩
  rw [hmethod.right]
  decide

end DocPages
