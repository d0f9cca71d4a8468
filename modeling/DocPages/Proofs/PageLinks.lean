import DocPages.Proofs.CharacterReferences
import DocPages.Proofs.Navigation
import DocPages.Proofs.PagePaths

/-!
# Links That Lead to Pages

The markup of a page links to other pages in four places: the navigation list, the overview of a
class, the result types of a signature and the types of its arguments.  The four read different views
of the tree, its top level, the members of classes and the index, while the pages are made from the
order of declaration.

A link is read off the written text.  Whatever comes from a comment is escaped and so begins no tag,
which makes the links of a text the links of its parts.

## Main results

- `anchors`: the links of a markup
- `anchors_append_of_silent`, `anchors_link`: the links of a concatenation
- `Tree.anchors_navigation`, `Tree.anchors_classOverview`: one link for each entity that is listed
- `Tree.anchors_signatureMarkup`, `Tree.anchors_argumentHead`: one link for each type that is a key
- `links_lead_to_pages`: every link leads to a page of the site
-/

namespace DocPages

open Html (escape)

/-! ## §1 Links of a text -/

/-- A link in a markup: the value of its `href` as written, and the text it shows. -/
structure Anchor where
  target : Bytes
  text : Bytes
  deriving DecidableEq, Repr

/-- The beginning of a link. -/
def anchorMark : Bytes := bytes "<a href=\""

/-- The link that a text begins with. -/
def anchorAt? (s : Bytes) : Option Anchor := do
  let rest ← Bytes.dropPrefix? anchorMark s
  let (target, rest) ← Bytes.cutFirst? [byte '"'] rest
  let (_, rest) ← Bytes.cutFirst? [byte '>'] rest
  let (text, _) ← Bytes.cutFirst? [byte '<'] rest
  return ⟨target, text⟩

/-- The links of a text, from left to right. -/
def anchors : Bytes → List Anchor
  | [] => []
  | b :: s => (anchorAt? (b :: s)).toList ++ anchors s

/-- Whether no link can begin in a text, whatever follows it. -/
def silent : Bytes → Bool
  | [] => true
  | b :: s => (b != byte '<' || s.head?.any (· != byte 'a')) && silent s

theorem silent_append {x y : Bytes} (hx : silent x = true) (hy : silent y = true) :
    silent (x ++ y) = true := by
  induction x with
  | nil => exact hy
  | cons b x ih =>
    simp only [silent, Bool.and_eq_true, Bool.or_eq_true] at hx
    simp only [List.cons_append, silent, ih hx.2, Bool.and_true, Bool.or_eq_true]
    refine hx.1.imp id ?_
    intro h
    cases x with
    | nil => simp at h
    | cons c x => simpa using h

theorem silent_of_notMem {x : Bytes} (hx : byte '<' ∉ x) : silent x = true := by
  induction x with
  | nil => rfl
  | cons b x ih =>
    obtain ⟨hb, hx⟩ : b ≠ byte '<' ∧ byte '<' ∉ x := by
      simpa [eq_comm] using hx
    simp [silent, hb, ih hx]

theorem silent_escape (s : Bytes) : silent (escape s) = true :=
  silent_of_notMem (Html.notMem_escape s)

theorem silent_flatMap {α : Type} {f : α → Bytes} {xs : List α} (h : ∀ x ∈ xs, silent (f x) = true) :
    silent (xs.flatMap f) = true := by
  induction xs with
  | nil => rfl
  | cons x xs ih =>
    rw [List.flatMap_cons]
    exact silent_append (h x List.mem_cons_self) (ih fun y hy => h y (List.mem_cons_of_mem _ hy))

theorem anchorAt?_eq_none {b : UInt8} {s : Bytes} (h : b ≠ byte '<' ∨ ∃ c s', s = c :: s' ∧ c ≠ byte 'a') :
    anchorAt? (b :: s) = none := by
  have hmark : anchorMark = byte '<' :: byte 'a' :: bytes " href=\"" := by decide
  have hdrop : Bytes.dropPrefix? anchorMark (b :: s) = none := by
    rw [hmark]
    rcases h with hb | ⟨c, s', rfl, hc⟩
    · simp [Bytes.dropPrefix?, Ne.symm hb]
    · simp [Bytes.dropPrefix?, Ne.symm hc]
  simp [anchorAt?, hdrop]

/-- A silent beginning has no links, and takes none from what follows it. -/
theorem anchors_append_of_silent {x : Bytes} (hx : silent x = true) (s : Bytes) :
    anchors (x ++ s) = anchors s := by
  induction x with
  | nil => rfl
  | cons b x ih =>
    simp only [silent, Bool.and_eq_true, Bool.or_eq_true, bne_iff_ne] at hx
    have hnone : anchorAt? (b :: (x ++ s)) = none := by
      apply anchorAt?_eq_none
      refine hx.1.imp id ?_
      intro h
      cases x with
      | nil => simp at h
      | cons c x => exact ⟨c, x ++ s, rfl, by simpa using h⟩
    rw [List.cons_append, anchors, hnone, ih hx.2]
    rfl

/-- A written link is read back, and the links after it stay. -/
theorem anchors_link {target more text : Bytes} (htarget : byte '"' ∉ target)
    (hmore : byte '>' ∉ more) (htext : byte '<' ∉ text)
    (hsilent : byte '<' ∉ target ++ byte '"' :: more) (s : Bytes) :
    anchors (anchorMark ++ (target ++ byte '"' :: (more ++ byte '>' :: (text ++ bytes "</a>" ++ s)))) =
      ⟨target, text⟩ :: anchors s := by
  have hmark : anchorMark = byte '<' :: bytes "a href=\"" := by decide
  have hclose : bytes "</a>" ++ s = byte '<' :: (bytes "/a>" ++ s) := rfl
  have hat : anchorAt? (anchorMark ++
      (target ++ byte '"' :: (more ++ byte '>' :: (text ++ bytes "</a>" ++ s)))) =
        some ⟨target, text⟩ := by
    have hdrop := Bytes.dropPrefix?_eq_some_iff (p := anchorMark).2 (rfl : anchorMark ++
      (target ++ byte '"' :: (more ++ byte '>' :: (text ++ bytes "</a>" ++ s))) = _)
    have hquote := Bytes.cutFirst?_byte_eq_some_iff.2 ⟨(rfl : target ++ byte '"' ::
      (more ++ byte '>' :: (text ++ bytes "</a>" ++ s)) = _), htarget⟩
    have hend := Bytes.cutFirst?_byte_eq_some_iff.2 ⟨(rfl : more ++ byte '>' ::
      (text ++ bytes "</a>" ++ s) = _), hmore⟩
    have hnext := Bytes.cutFirst?_byte_eq_some_iff.2 ⟨(rfl : text ++ byte '<' :: (bytes "/a>" ++ s) = _),
      htext⟩
    rw [List.append_assoc, hclose] at hdrop hquote hend ⊢
    simp only [anchorAt?, hdrop, hquote, hend, hnext, Option.bind_eq_bind, Option.bind_some,
      Option.pure_def]
  -- after its first byte a link has no tag before the one that closes it
  have hrest : silent (bytes "a href=\"" ++ (target ++ byte '"' :: more) ++
      (byte '>' :: text) ++ bytes "</a>") = true := by
    refine silent_append (silent_append (silent_append (by decide) (silent_of_notMem hsilent)) ?_)
      (by decide)
    exact silent_of_notMem (by simpa using ⟨by decide, htext⟩)
  have hsplit : anchorMark ++ (target ++ byte '"' :: (more ++ byte '>' :: (text ++ bytes "</a>" ++ s))) =
      byte '<' :: (bytes "a href=\"" ++ (target ++ byte '"' :: more) ++ (byte '>' :: text) ++
        bytes "</a>" ++ s) := by
    rw [hmark]
    simp only [List.append_assoc, List.cons_append]
  rw [hsplit] at hat ⊢
  rw [anchors, hat, anchors_append_of_silent hrest]
  rfl

/-! ## §2 Composing texts with links -/

/-- A text has these links, and takes none from what follows it. -/
def Links (x : Bytes) (links : List Anchor) : Prop := ∀ s, anchors (x ++ s) = links ++ anchors s

namespace Links

theorem anchors_eq {x : Bytes} {links : List Anchor} (h : Links x links) : anchors x = links := by
  have hnil := h []
  rwa [List.append_nil, anchors, List.append_nil] at hnil

theorem of_silent {x : Bytes} (hx : silent x = true) : Links x [] := anchors_append_of_silent hx

theorem append {x y : Bytes} {as bs : List Anchor} (hx : Links x as) (hy : Links y bs) :
    Links (x ++ y) (as ++ bs) := by
  intro s
  rw [List.append_assoc, hx, hy, List.append_assoc]

/-- Text without links in front changes nothing. -/
theorem silent_append {x y : Bytes} {links : List Anchor} (hx : silent x = true) (hy : Links y links) :
    Links (x ++ y) links := (of_silent hx).append hy

/-- Text without links at the end changes nothing. -/
theorem append_silent {x y : Bytes} {links : List Anchor} (hx : Links x links) (hy : silent y = true) :
    Links (x ++ y) links := by
  have h := hx.append (of_silent hy)
  rwa [List.append_nil] at h

variable {α : Type} {f : α → Bytes} {g : α → List Anchor} {xs : List α}

theorem flatMap (h : ∀ x ∈ xs, Links (f x) (g x)) : Links (xs.flatMap f) (xs.flatMap g) := by
  induction xs with
  | nil => exact of_silent rfl
  | cons x xs ih =>
    rw [List.flatMap_cons, List.flatMap_cons]
    exact (h x List.mem_cons_self).append (ih fun y hy => h y (List.mem_cons_of_mem _ hy))

theorem join {sep : Bytes} (hsep : silent sep = true) (h : ∀ x ∈ xs, Links (f x) (g x)) :
    Links (Bytes.join sep (xs.map f)) (xs.flatMap g) := by
  cases xs with
  | nil => exact of_silent rfl
  | cons x xs =>
    rw [List.map_cons, Bytes.join_cons, List.flatMap_map, List.flatMap_cons]
    refine (h x List.mem_cons_self).append (flatMap fun y hy => ?_)
    exact silent_append hsep (h y (List.mem_cons_of_mem _ hy))

end Links

/-! ## §3 The links of lists -/

/-- The link to an entity in a list. -/
def Entity.anchor (e : Entity) : Anchor := ⟨escape (href e.key), escape e.label⟩

theorem Kind.delimiter_notMem_name (k : Kind) : byte '<' ∉ k.name ∧ byte '>' ∉ k.name := by
  cases k <;> decide

theorem Entity.links_item (e : Entity) : Links e.item [e.anchor] := by
  intro s
  obtain ⟨hkind, hkind'⟩ := e.kind.delimiter_notMem_name
  -- the item is a silent tag and one link with a title
  have hitem : e.item ++ s =
      (bytes "<li class=\"type-" ++ e.kind.name ++ bytes "\">") ++
        (anchorMark ++ (escape (href e.key) ++ byte '"' ::
          ((bytes " title=\"" ++ escape e.key ++ bytes " (" ++ e.kind.name ++ bytes ")\"") ++
            byte '>' :: (escape e.label ++ bytes "</a>" ++ s)))) := by
    have hopen : bytes "\"><a href=\"" = bytes "\">" ++ anchorMark := by decide
    have htitle : bytes "\" title=\"" = byte '"' :: bytes " title=\"" := by decide
    have hclose : bytes ")\">" = bytes ")\"" ++ [byte '>'] := by decide
    simp only [Entity.item, hopen, htitle, hclose, List.append_assoc, List.cons_append,
      List.nil_append]
  have hsilent : silent (bytes "<li class=\"type-" ++ e.kind.name ++ bytes "\">") = true :=
    silent_append (silent_append (by decide) (silent_of_notMem hkind)) (by decide)
  have hmore : byte '>' ∉
      bytes " title=\"" ++ escape e.key ++ bytes " (" ++ e.kind.name ++ bytes ")\"" := by
    simp only [List.mem_append, not_or]
    exact ⟨⟨⟨⟨by decide, Html.delimiter_notMem_escape (Or.inr (Or.inl rfl)) _⟩, by decide⟩, hkind'⟩,
      by decide⟩
  have hbefore : byte '<' ∉ escape (href e.key) ++ byte '"' ::
      (bytes " title=\"" ++ escape e.key ++ bytes " (" ++ e.kind.name ++ bytes ")\"") := by
    simp only [List.mem_append, List.mem_cons, not_or]
    exact ⟨Html.notMem_escape _, by decide, ⟨⟨⟨by decide, Html.notMem_escape _⟩, by decide⟩, hkind⟩,
      by decide⟩
  rw [hitem, anchors_append_of_silent hsilent,
    anchors_link (Html.delimiter_notMem_escape (Or.inr (Or.inr rfl)) _) hmore
      (Html.notMem_escape _) hbefore]
  rfl

theorem links_items (es : List Entity) : Links (items es) (es.map Entity.anchor) := by
  rw [List.map_eq_flatMap]
  exact Links.flatMap fun e _ => e.links_item.append_silent (by decide)

theorem links_entityList (es : List Entity) : Links (entityList es) (es.map Entity.anchor) :=
  ((links_items es).silent_append (by decide)).append_silent (by decide)

namespace Tree

variable (t : Tree)

theorem links_rootItem (h : Handle) :
    Links (t.rootItem (t.entity h))
      ((h :: (t.entity h).members).map fun m => (t.entity m).anchor) := by
  refine Links.append_silent ?_ (by decide)
  cases hclass : (t.entity h).isClass with
  | true =>
    have hbelow := ((links_items (t.resolve (t.entity h).members)).silent_append
      (x := bytes "<ul>") (by decide)).append_silent (y := bytes "</ul>") (by decide)
    rw [if_pos rfl, List.map_cons]
    simpa [resolve, Function.comp_def] using (t.entity h).links_item.append hbelow
  | false =>
    rw [Entity.members_eq_nil hclass]
    exact (t.entity h).links_item.append_silent rfl

/-- The links of the navigation: each top-level entity and, after it, its members. -/
theorem anchors_navigation :
    anchors t.navigation =
      (t.root.flatMap fun h => h :: (t.entity h).members).map fun h => (t.entity h).anchor := by
  have hitems : Links ((t.resolve t.root).flatMap t.rootItem)
      (t.root.flatMap fun h => (h :: (t.entity h).members).map fun m => (t.entity m).anchor) := by
    rw [resolve, List.flatMap_map]
    exact Links.flatMap fun h _ => t.links_rootItem h
  rw [List.map_flatMap]
  exact ((hitems.silent_append (by decide)).append_silent (by decide)).anchors_eq

theorem links_overviewSection (name title closing : Bytes) (hname : silent name = true)
    (htitle : silent title = true) (hclosing : silent closing = true) (es : List Entity) :
    Links (overviewSection name title closing es) (es.map Entity.anchor) := by
  unfold overviewSection
  split
  · next h =>
    rw [List.isEmpty_iff.1 h]
    exact Links.of_silent rfl
  · have hopen : silent (bytes "<div class=\"" ++ name ++ bytes "\"><h3>" ++ title ++
        bytes "</h3>") = true :=
      silent_append (silent_append (silent_append (silent_append (by decide) hname) (by decide))
        htitle) (by decide)
    exact (((links_entityList es).silent_append hopen).append_silent hclosing).append_silent
      (by decide)

/-- The links of the overview of a class: its constructor and its methods, by kind. -/
theorem anchors_classOverview (h : Handle) :
    anchors (t.classOverview h) =
      ((t.constructor? h).toList ++ t.membersOf h .instanceMethod ++
        t.membersOf h .classMethod).map fun m => (t.entity m).anchor := by
  have hconstructor := links_overviewSection (bytes "constructor") (bytes "Constructor") clearing
    (by decide) (by decide) (by decide) (t.resolve (t.constructor? h).toList)
  have hinstance := links_overviewSection (bytes "instance-methods") (bytes "Instance methods")
    clearing (by decide) (by decide) (by decide) (t.resolve (t.membersOf h .instanceMethod))
  have hclass := links_overviewSection (bytes "class-methods") (bytes "Class methods") []
    (by decide) (by decide) (by decide) (t.resolve (t.membersOf h .classMethod))
  have hrule : silent (bytes "<hr>") = true := by decide
  have hall := ((hconstructor.silent_append hrule).append hinstance).append hclass
  rw [classOverview, hall.anchors_eq]
  simp only [resolve, List.map_append, List.map_map]
  rfl

end Tree

/-! ## §4 The links of types -/

/-- The result types of an entity; a class has none. -/
def Entity.returns (e : Entity) : List Bytes := e.signature?.elim [] Signature.returns

/-- The arguments of an entity; a class has none. -/
def Entity.arguments (e : Entity) : List Argument := e.signature?.elim [] Signature.arguments

/-- The link to the entity that a type names. -/
def typeAnchor (name : Bytes) : Anchor := ⟨escape (href name), escape name⟩

namespace Tree

variable (t : Tree)

theorem links_typeLink (name : Bytes) :
    Links (t.typeLink name) (if t.has name then [typeAnchor name] else []) := by
  unfold typeLink
  split
  · intro s
    have hclose : bytes "\">" = byte '"' :: ([] ++ [byte '>']) := by decide
    have hbefore : byte '<' ∉ escape (href name) ++ [byte '"'] := by
      simpa using ⟨Html.notMem_escape _, by decide⟩
    have hlink := anchors_link (Html.delimiter_notMem_escape (Or.inr (Or.inr rfl)) (href name))
      List.not_mem_nil (Html.notMem_escape name) hbefore s
    rw [hclose]
    simp only [List.append_assoc, List.cons_append, List.nil_append] at hlink ⊢
    exact hlink
  · exact Links.of_silent (silent_escape name)

/-- Types in a row, each in an element of its own: the links are those of the types that are keys. -/
theorem links_types (sep before after : Bytes) (hsep : silent sep = true)
    (hbefore : silent before = true) (hafter : silent after = true) (types : List Bytes) :
    Links (Bytes.join sep (types.map fun name =>
        before ++ escape name ++ bytes "\">" ++ t.typeLink name ++ after))
      ((types.filter t.has).map typeAnchor) := by
  have hlinks : ((types.filter t.has).map typeAnchor) =
      types.flatMap fun name => if t.has name then [typeAnchor name] else [] := by
    induction types with
    | nil => rfl
    | cons name types ih => by_cases h : t.has name = true <;> simp [h, ih]
  rw [hlinks]
  refine Links.join hsep fun name _ => ?_
  have hopen : silent (before ++ escape name ++ bytes "\">") = true :=
    silent_append (silent_append hbefore (silent_escape name)) (by decide)
  exact ((t.links_typeLink name).silent_append hopen).append_silent hafter

theorem links_returnsMarkup (returns : List Bytes) :
    Links (t.returnsMarkup returns) ((returns.filter t.has).map typeAnchor) := by
  unfold returnsMarkup
  split
  · next h =>
    rw [List.isEmpty_iff.1 h]
    exact Links.of_silent rfl
  · have htypes := t.links_types (bytes " | ") (bytes "<span class=\"object-") (bytes "</span>")
      (by decide) (by decide) (by decide) returns
    exact (htypes.silent_append (by decide)).append_silent (by decide)

/-- The markup of an argument in front of its description. -/
def argumentHead (a : Argument) : Bytes :=
  bytes "<li><code class=\"argument-name\">" ++ escape a.name ++ bytes "</code> (" ++
    t.argumentTypes a.types ++ bytes ") – "

/-- The markup of arguments is one item for each, with the description as it was written. -/
theorem argumentsMarkup_eq (e : Entity) :
    t.argumentsMarkup e =
      e.arguments.flatMap fun a => t.argumentHead a ++ a.description ++ bytes "</li>" := by
  unfold argumentsMarkup Entity.arguments
  cases e.signature? with
  | none => rfl
  | some s => rfl

/-- The links of an argument in front of its description: one for each type that is a key. -/
theorem anchors_argumentHead (a : Argument) :
    anchors (t.argumentHead a) = (a.types.filter t.has).map typeAnchor := by
  have htypes : Links (t.argumentTypes a.types) ((a.types.filter t.has).map typeAnchor) := by
    unfold argumentTypes
    split
    · next h =>
      rw [List.isEmpty_iff.1 h]
      exact Links.of_silent (by decide)
    · exact t.links_types (bytes "|") (bytes "<code class=\"object-") (bytes "</code>") (by decide)
        (by decide) (by decide) a.types
  have hopen : silent (bytes "<li><code class=\"argument-name\">" ++ escape a.name ++
      bytes "</code> (") = true :=
    silent_append (silent_append (by decide) (silent_escape _)) (by decide)
  exact ((htypes.silent_append hopen).append_silent (by decide)).anchors_eq

/-- The links of a signature: one for each result type that is a key. -/
theorem anchors_signatureMarkup (e : Entity) :
    anchors (t.signatureMarkup e) = (e.returns.filter t.has).map typeAnchor := by
  unfold signatureMarkup Entity.returns
  cases e.signature? with
  | none => rfl
  | some s =>
    have hopen : silent (bytes "<span class=\"key\">" ++ escape e.key ++
        bytes "</span>(<span class=\"arguments\">" ++ escape s.argumentsText ++
        bytes "</span>)") = true :=
      silent_append (silent_append (silent_append (silent_append (by decide) (silent_escape _))
        (by decide)) (silent_escape _)) (by decide)
    have halias : silent (aliasMarkup e) = true := by
      refine silent_flatMap fun a _ => ?_
      exact silent_append (silent_append (by decide) (silent_escape a)) (by decide)
    exact (((t.links_returnsMarkup s.returns).silent_append hopen).append_silent halias).anchors_eq

end Tree

/-! ## §5 Every link leads to a page -/

/-- A link leads to a page of the site: its target is written as the escaped path of one. -/
def Site.Reaches (site : Site) (a : Anchor) : Prop := ∃ p ∈ site.pages, a.target = escape p.path

/-- Whether a name is the key of an entity of the tree. -/
def Tree.isKey (t : Tree) (name : Bytes) : Bool := t.entities.any fun h => (t.entity h).key = name

namespace Tree.Invariant

variable {t : Tree} {convert : Converter} {readme linkPrefix : Bytes} {templates : Templates}
  {site : Site}

theorem has_eq_isKey (ht : t.Invariant) : t.has = t.isKey := by
  funext name
  have hkeys : t.has name = true ↔ name ∈ t.entities.map fun h => (t.entity h).key := by
    rw [ht.entities_map_key]
    exact (ht.mem_order_iff name).symm
  rw [Bool.eq_iff_iff, hkeys]
  simp [isKey]

/-- Every key has a page. -/
theorem reaches_of_has (ht : t.Invariant)
    (hbuild : Site.build convert t readme templates linkPrefix = .ok site) {k : Bytes}
    (hk : t.has k = true) (text : Bytes) : site.Reaches ⟨escape (href k), text⟩ := by
  have horder : k ∈ t.order := (ht.mem_order_iff k).2 hk
  have hpath : href k ∈ site.paths := by
    rw [Site.paths_eq ht hbuild]
    exact List.mem_cons_of_mem _ (List.mem_append_left _ (List.mem_map_of_mem horder))
  obtain ⟨p, hp, hpath⟩ := List.mem_map.1 hpath
  exact ⟨p, hp, by rw [hpath]⟩

/-- Every entity that stands for its key can be linked to. -/
theorem reaches_anchor (ht : t.Invariant)
    (hbuild : Site.build convert t readme templates linkPrefix = .ok site) {h : Handle}
    (hh : t.index.find? (t.entity h).key = some h) : site.Reaches (t.entity h).anchor := by
  refine ht.reaches_of_has hbuild ?_ _
  simp [has, lookup?, hh]

theorem reaches_typeAnchor (ht : t.Invariant)
    (hbuild : Site.build convert t readme templates linkPrefix = .ok site) {types : List Bytes}
    {a : Anchor} (ha : a ∈ (types.filter t.has).map typeAnchor) : site.Reaches a := by
  obtain ⟨name, hname, rfl⟩ := List.mem_map.1 ha
  exact ht.reaches_of_has hbuild (List.mem_filter.1 hname).2 _

end Tree.Invariant

/-- **No link dangles**: in the site of an accepted list of scripts every link of the navigation, of
    the overview of a class, of a signature and of the types of an argument leads to a page.  The
    navigation links to the top level and to the members below it, an overview to the constructor and
    the methods of its class, and a result type or argument type is a link exactly when it is the key
    of an entity. -/
theorem links_lead_to_pages (scripts : List Script) (t : Tree) (convert : Converter)
    (readme linkPrefix : Bytes) (templates : Templates) (site : Site)
    (hparse : (parseScripts scripts).1 = .ok t)
    (hbuild : Site.build convert t readme templates linkPrefix = .ok site) :
    (anchors t.navigation =
        (t.root.flatMap fun h => h :: (t.entity h).members).map (fun h => (t.entity h).anchor) ∧
      ∀ a ∈ anchors t.navigation, site.Reaches a) ∧
    (∀ c ∈ t.entities, (t.entity c).isClass = true →
      anchors (t.classOverview c) = ((t.constructor? c).toList ++ t.membersOf c .instanceMethod ++
        t.membersOf c .classMethod).map (fun m => (t.entity m).anchor) ∧
      ∀ a ∈ anchors (t.classOverview c), site.Reaches a) ∧
    ∀ e : Entity,
      (anchors (t.signatureMarkup e) = (e.returns.filter t.isKey).map typeAnchor ∧
        ∀ a ∈ anchors (t.signatureMarkup e), site.Reaches a) ∧
      t.argumentsMarkup e =
        (e.arguments.flatMap fun x => t.argumentHead x ++ x.description ++ bytes "</li>") ∧
      ∀ x ∈ e.arguments,
        anchors (t.argumentHead x) = (x.types.filter t.isKey).map typeAnchor ∧
        ∀ a ∈ anchors (t.argumentHead x), site.Reaches a := by
  have ht := (parseScripts_nested hparse).invariant
  -- the members of whatever stands for its key stand for theirs
  have hmember : ∀ c, t.index.find? (t.entity c).key = some c → ∀ m ∈ (t.entity c).members,
      site.Reaches (t.entity m).anchor := by
    intro c hc m hm
    exact ht.reaches_anchor hbuild ((ht.mem_members_iff hc m).1 hm).1
  refine ⟨⟨t.anchors_navigation, ?_⟩, ?_, ?_⟩
  · rw [t.anchors_navigation]
    intro a ha
    obtain ⟨m, hm, rfl⟩ := List.mem_map.1 ha
    obtain ⟨h, hh, hm⟩ := List.mem_flatMap.1 hm
    have hindex := ((ht.mem_root_iff h).1 hh).1
    rcases List.mem_cons.1 hm with rfl | hm
    · exact ht.reaches_anchor hbuild hindex
    · exact hmember h hindex m hm
  · intro c hc _
    refine ⟨t.anchors_classOverview c, ?_⟩
    rw [t.anchors_classOverview]
    intro a ha
    obtain ⟨m, hm, rfl⟩ := List.mem_map.1 ha
    refine hmember c ((ht.mem_entities_iff c).1 hc) m ?_
    rcases List.mem_append.1 hm with hm | hm
    · rcases List.mem_append.1 hm with hm | hm
      · exact List.mem_of_find?_eq_some (Option.mem_toList.1 hm)
      · exact (List.mem_filter.1 hm).1
    · exact (List.mem_filter.1 hm).1
  · intro e
    rw [← ht.has_eq_isKey]
    refine ⟨⟨t.anchors_signatureMarkup e, ?_⟩, t.argumentsMarkup_eq e, ?_⟩
    · rw [t.anchors_signatureMarkup]
      exact fun a ha => ht.reaches_typeAnchor hbuild ha
    · intro x _
      refine ⟨t.anchors_argumentHead x, ?_⟩
      rw [t.anchors_argumentHead]
      exact fun a ha => ht.reaches_typeAnchor hbuild ha

/-- A method that ends at the top level when another one takes the key of its class: it is still
    linked to, the types that are keys link to their pages, and the other types are plain. -/
theorem links_after_takeover :
    let scripts : List Script := [⟨bytes "a.js", bytes
      "/*?\nclass a.Foo\na.Foo#run(x) -> a.Foo|X\n- x (X|a.Foo#run) - why\na.Foo() -> X\n**/"⟩]
    let templates : Templates := ⟨bytes "i", bytes "[[title]]", []⟩
    ∃ t site, (parseScripts scripts).1 = .ok t ∧
      Site.build .ok t [] templates [] = .ok site ∧
      t.root = [2, 1] ∧
      anchors (t.signatureMarkup (t.entity 1)) = [typeAnchor (bytes "a.Foo")] ∧
      (∀ x ∈ (t.entity 1).arguments,
        anchors (t.argumentHead x) = [typeAnchor (bytes "a.Foo#run")]) ∧
      ∀ a ∈ anchors t.navigation, site.Reaches a := by
  intro scripts templates
  have hview : ((parseScripts scripts).1.toOption.map fun t =>
      ((Site.build .ok t [] templates []).isOk, t.root, (t.entity 1).returns.filter t.isKey)) =
      some (true, [2, 1], [bytes "a.Foo"]) := by decide +kernel
  have htypes : ((parseScripts scripts).1.toOption.map fun t =>
      (t.entity 1).arguments.map fun x => x.types.filter t.isKey) =
      some [[bytes "a.Foo#run"]] := by decide
  obtain ⟨t, hparse, hview⟩ := exists_tree_of_view hview
  simp only [Prod.mk.injEq] at hview
  obtain ⟨hbuilt, hroot, hreturns⟩ := hview
  rw [hparse] at htypes
  replace htypes : ((t.entity 1).arguments.map fun x => x.types.filter t.isKey) =
    [[bytes "a.Foo#run"]] := Option.some.inj htypes
  cases hbuild : Site.build .ok t [] templates [] with
  | error e => simp [hbuild, Except.isOk, Except.toBool] at hbuilt
  | ok site =>
    obtain ⟨⟨-, hnavigation⟩, -, hentity⟩ :=
      links_lead_to_pages scripts t .ok [] [] templates site hparse hbuild
    obtain ⟨⟨hsignature, -⟩, -, harguments⟩ := hentity (t.entity 1)
    refine ⟨t, site, hparse, hbuild, hroot, by rw [hsignature, hreturns]; rfl, ?_, hnavigation⟩
    intro x hx
    have hfilter : x.types.filter t.isKey = [bytes "a.Foo#run"] := by
      have hmem := List.mem_map_of_mem (f := fun x : Argument => x.types.filter t.isKey) hx
      rw [htypes] at hmem
      exact List.mem_singleton.1 hmem
    rw [(harguments x hx).1, hfilter]
    rfl

end DocPages
