import DocPages.Page.Links
import DocPages.Page.Site
import DocPages.Proofs.SessionRun

/-!
# Paths of Pages

The path of a key replaces its first `#` by `.prototype.`, but keys may hold that text themselves.
So different keys can have one path.  This module finds all pairs of keys that do, and shows that
nothing else makes two pages of a site share a path, except an asset that is named like a page.

## Main results

- `SharesPage`: the pairs of different keys with one path
- `href_eq_iff`: two keys have one path only if they are equal or such a pair
- `page_paths_distinct_iff`: when the pages of a site have pairwise distinct paths
- `page_paths_clash`: a site where they have not
-/

namespace DocPages

/-! ## §1 The text that marks instance methods -/

/-- The text that a path has in place of the mark of an instance method. -/
def prototypeMark : Bytes := bytes ".prototype."

/-- A key without the mark is its own path, but for the ending. -/
theorem href_of_not_mem {k : Bytes} (hk : byte '#' ∉ k) : href k = k ++ pageEnding := by
  unfold href Bytes.replaceFirst
  rw [bytes_hash, Bytes.cutFirst?_byte_eq_none_iff.2 hk]
  rfl

/-- A key with the mark has the longer text at its first occurrence. -/
theorem href_of_mark {a b : Bytes} (ha : byte '#' ∉ a) :
    href (a ++ byte '#' :: b) = a ++ (prototypeMark ++ b) ++ pageEnding := by
  unfold href Bytes.replaceFirst
  rw [bytes_hash, Bytes.cutFirst?_byte_eq_some_iff.2 ⟨rfl, ha⟩]
  simp [prototypeMark, pageEnding]

/-- Two occurrences of the text that start apart do not overlap, or overlap in one dot. -/
theorem prototypeMark_overlap {u b₁ b₂ : Bytes}
    (h : prototypeMark ++ b₁ = u ++ (prototypeMark ++ b₂)) :
    (u = [] ∧ b₁ = b₂) ∨ (u = bytes ".prototype" ∧ b₁ = bytes "prototype." ++ b₂) ∨
      ∃ v, u = prototypeMark ++ v ∧ b₁ = v ++ (prototypeMark ++ b₂) := by
  rcases List.append_eq_append_iff.1 h with ⟨v, hu, hb⟩ | ⟨w, hmark, hw⟩
  · exact Or.inr (Or.inr ⟨v, hu, hb⟩)
  · -- `u` and `w` are a beginning and an end of the text, and `w` is a beginning of it too
    have hlength : u.length + w.length = 11 := by
      rw [← List.length_append, ← hmark]
      decide
    have hu : u = prototypeMark.take u.length := by rw [hmark, List.take_left]
    have hwdrop : w = prototypeMark.drop u.length := by rw [hmark, List.drop_left]
    have hwtake : w = prototypeMark.take w.length := by
      have htake := congrArg (List.take w.length) hw
      rw [List.take_left, List.take_append_of_le_length (by
        have : prototypeMark.length = 11 := by decide
        omega)] at htake
      exact htake.symm
    -- so `w` is a border of the text, and a text of eleven bytes has few places for one
    have hborder : ∀ n ≤ 11, prototypeMark.drop n = prototypeMark.take (11 - n) →
        n = 0 ∨ n = 10 ∨ n = 11 := by decide
    have hn := hborder u.length (by omega) (by
      rw [← hwdrop, show 11 - u.length = w.length by omega]
      exact hwtake)
    rcases hn with hn | hn | hn
    · -- both start at one place
      obtain rfl : u = [] := List.length_eq_zero_iff.1 hn
      exact Or.inl ⟨rfl, List.append_cancel_left h⟩
    · -- the last dot of the one is the first dot of the other
      rw [hn] at hu
      have hten : prototypeMark.take 10 = bytes ".prototype" := by decide
      have hsplit : prototypeMark = bytes ".prototype" ++ bytes "." := by decide
      have hsplit' : bytes "." ++ bytes "prototype." = prototypeMark := by decide
      refine Or.inr (Or.inl ⟨hu.trans hten, ?_⟩)
      rw [hu, hten, ← hsplit', List.append_assoc] at h
      have h' : bytes ".prototype" ++ (bytes "." ++ b₁) =
          bytes ".prototype" ++ (bytes "." ++ (bytes "prototype." ++ b₂)) := by
        rw [← List.append_assoc, ← hsplit, ← hsplit', List.append_assoc]
        simpa [List.append_assoc] using h
      exact List.append_cancel_left (List.append_cancel_left h')
    · -- the other starts where the one ends
      rw [hn] at hu
      obtain rfl : u = prototypeMark := hu.trans (by decide)
      exact Or.inr (Or.inr ⟨[], by simp, by simpa using h⟩)

/-! ## §2 Keys with one path -/

/-- Pairs of different keys that have one path.  In the first kind one key is written with the mark
    and the other with the text for it; in the others both have the mark, one where the other has
    the text. -/
inductive SharesPage : Bytes → Bytes → Prop where
  /-- As `Foo#bar` and `Foo.prototype.bar`. -/
  | written (a b : Bytes) (ha : byte '#' ∉ a) (hb : byte '#' ∉ b) :
      SharesPage (a ++ byte '#' :: b) (a ++ (prototypeMark ++ b))
  /-- As `x#y.prototype.z` and `x.prototype.y#z`. -/
  | apart (a v d : Bytes) (ha : byte '#' ∉ a) (hv : byte '#' ∉ v) :
      SharesPage (a ++ byte '#' :: (v ++ (prototypeMark ++ d)))
        (a ++ (prototypeMark ++ v) ++ byte '#' :: d)
  /-- As `a#prototype.d` and `a.prototype#d`. -/
  | overlapping (a d : Bytes) (ha : byte '#' ∉ a) :
      SharesPage (a ++ byte '#' :: (bytes "prototype." ++ d))
        (a ++ bytes ".prototype" ++ byte '#' :: d)

theorem hash_not_mem_prototypeMark : byte '#' ∉ prototypeMark := by decide

/-- Such a pair has one path. -/
theorem SharesPage.href_eq {k₁ k₂ : Bytes} (h : SharesPage k₁ k₂) : href k₁ = href k₂ := by
  cases h with
  | written a b ha hb =>
    have hnot : byte '#' ∉ a ++ (prototypeMark ++ b) := by
      simp [ha, hb, hash_not_mem_prototypeMark]
    rw [href_of_mark ha, href_of_not_mem hnot]
  | apart a v d ha hv =>
    have hnot : byte '#' ∉ a ++ (prototypeMark ++ v) := by
      simp [ha, hv, hash_not_mem_prototypeMark]
    rw [href_of_mark ha, href_of_mark hnot]
    simp [List.append_assoc]
  | overlapping a d ha =>
    have hword : byte '#' ∉ bytes ".prototype" := by decide
    have hnot : byte '#' ∉ a ++ bytes ".prototype" := by simp [ha, hword]
    have hsplit : prototypeMark ++ bytes "prototype." = bytes ".prototype" ++ prototypeMark := by
      decide
    rw [href_of_mark ha, href_of_mark hnot, ← List.append_assoc prototypeMark, hsplit]
    simp [List.append_assoc]

/-- The keys of such a pair are different: the first `#` of the one stands where the other has a
    dot. -/
theorem SharesPage.ne {k₁ k₂ : Bytes} (h : SharesPage k₁ k₂) : k₁ ≠ k₂ := by
  have hdot : ∀ x y : Bytes, byte '#' :: x ≠ byte '.' :: y := by
    intro x y heq
    exact absurd (List.cons.inj heq).1 (by decide)
  have hmark : prototypeMark = byte '.' :: bytes "prototype." := by decide
  have hword : bytes ".prototype" = byte '.' :: bytes "prototype" := by decide
  cases h with
  | written a b _ _ =>
    rw [hmark]
    exact fun heq => hdot _ _ (List.append_cancel_left heq)
  | apart a v d _ _ =>
    rw [List.append_assoc a, hmark]
    exact fun heq => hdot _ _ (List.append_cancel_left heq)
  | overlapping a d _ =>
    rw [List.append_assoc a, hword]
    exact fun heq => hdot _ _ (List.append_cancel_left heq)

/-- Two keys with the mark, the first no later than the second. -/
theorem sharesPage_of_marks {a₁ b₁ u b₂ : Bytes} (ha : byte '#' ∉ a₁ ++ u)
    (h : prototypeMark ++ b₁ = u ++ (prototypeMark ++ b₂)) :
    a₁ ++ byte '#' :: b₁ = a₁ ++ u ++ byte '#' :: b₂ ∨
      SharesPage (a₁ ++ byte '#' :: b₁) (a₁ ++ u ++ byte '#' :: b₂) := by
  have ha₁ : byte '#' ∉ a₁ := fun h => ha (List.mem_append_left _ h)
  have hu : byte '#' ∉ u := fun h => ha (List.mem_append_right _ h)
  rcases prototypeMark_overlap h with ⟨rfl, rfl⟩ | ⟨rfl, rfl⟩ | ⟨v, rfl, rfl⟩
  · exact Or.inl (by simp)
  · exact Or.inr (SharesPage.overlapping a₁ b₂ ha₁)
  · exact Or.inr (SharesPage.apart a₁ v b₂ ha₁ fun h => hu (List.mem_append_right _ h))

/-- Two keys have one path exactly when they are equal or one of the pairs. -/
theorem href_eq_iff {k₁ k₂ : Bytes} :
    href k₁ = href k₂ ↔ k₁ = k₂ ∨ SharesPage k₁ k₂ ∨ SharesPage k₂ k₁ := by
  constructor
  · intro h
    cases hc₁ : Bytes.cutFirst? [byte '#'] k₁ with
    | none =>
      have hk₁ := Bytes.cutFirst?_byte_eq_none_iff.1 hc₁
      cases hc₂ : Bytes.cutFirst? [byte '#'] k₂ with
      | none =>
        have hk₂ := Bytes.cutFirst?_byte_eq_none_iff.1 hc₂
        rw [href_of_not_mem hk₁, href_of_not_mem hk₂] at h
        exact Or.inl (List.append_cancel_right h)
      | some parts =>
        obtain ⟨rfl, ha⟩ := Bytes.cutFirst?_byte_eq_some_iff.1 hc₂
        rw [href_of_not_mem hk₁, href_of_mark ha] at h
        have hk := List.append_cancel_right h
        have hb : byte '#' ∉ parts.2 := fun hmem => hk₁ (by simp [hk, hmem])
        exact Or.inr (Or.inr (hk ▸ SharesPage.written _ _ ha hb))
    | some parts₁ =>
      obtain ⟨rfl, ha₁⟩ := Bytes.cutFirst?_byte_eq_some_iff.1 hc₁
      cases hc₂ : Bytes.cutFirst? [byte '#'] k₂ with
      | none =>
        have hk₂ := Bytes.cutFirst?_byte_eq_none_iff.1 hc₂
        rw [href_of_not_mem hk₂, href_of_mark ha₁] at h
        have hk := List.append_cancel_right h
        have hb : byte '#' ∉ parts₁.2 := fun hmem => hk₂ (by simp [← hk, hmem])
        exact Or.inr (Or.inl (hk ▸ SharesPage.written _ _ ha₁ hb))
      | some parts₂ =>
        obtain ⟨rfl, ha₂⟩ := Bytes.cutFirst?_byte_eq_some_iff.1 hc₂
        rw [href_of_mark ha₁, href_of_mark ha₂] at h
        -- one of the two marks stands first, or both stand at one place
        rcases List.append_eq_append_iff.1 (List.append_cancel_right h) with
          ⟨u, hu, hrest⟩ | ⟨u, hu, hrest⟩
        · rw [hu] at ha₂ ⊢
          exact (sharesPage_of_marks ha₂ hrest).imp_right Or.inl
        · rw [hu] at ha₁ ⊢
          exact (sharesPage_of_marks ha₁ hrest).imp Eq.symm Or.inr
  · rintro (rfl | h | h)
    · rfl
    · exact h.href_eq
    · exact h.href_eq.symm

/-- No declared key has the path of the index page. -/
theorem href_ne_indexPath {l : Line} (hl : l.KeyForm) {k : Bytes} (hk : l.key? = some k) :
    href k ≠ indexPath := by
  intro h
  have hindex : indexPath = bytes "index" ++ pageEnding := by decide
  cases hc : Bytes.cutFirst? [byte '#'] k with
  | none =>
    rw [href_of_not_mem (Bytes.cutFirst?_byte_eq_none_iff.1 hc), hindex] at h
    exact hl.key_ne_index (hk.trans (congrArg some (List.append_cancel_right h)))
  | some parts =>
    -- the text for the mark is longer than the whole path of the index page
    obtain ⟨rfl, ha⟩ := Bytes.cutFirst?_byte_eq_some_iff.1 hc
    rw [href_of_mark ha] at h
    have hlength := congrArg List.length h
    have hmark : prototypeMark.length = 11 := by decide
    have hpath : indexPath.length = 10 := by decide
    simp only [List.length_append, hmark, hpath] at hlength
    omega

/-! ## §3 The pages of a site -/

namespace Site

variable {convert : Converter} {t : Tree} {readme linkPrefix : Bytes} {templates : Templates}

theorem entityPage_path {apiList : Bytes} {h : Handle} {p : Page}
    (hp : entityPage convert t templates apiList linkPrefix h = .ok p) :
    p.path = href (t.entity h).key := by
  unfold entityPage at hp
  cases hd : description convert t h with
  | error e => simp [hd, bind, Except.bind] at hp
  | ok text =>
    simp only [hd, bind, Except.bind, pure, Except.pure, Except.ok.injEq] at hp
    rw [← hp]

theorem map_path {apiList : Bytes} {hs : List Handle} {pages : List Page}
    (hpages : List.Forall₂
      (fun x p => entityPage convert t templates apiList linkPrefix x = .ok p) hs pages) :
    pages.map Page.path = hs.map fun h => href (t.entity h).key := by
  induction hpages with
  | nil => rfl
  | cons hp _ ih => rw [List.map_cons, List.map_cons, entityPage_path hp, ih]

/-- A site is its index page, a page for each entity in order, and its assets. -/
theorem build_eq_ok {site : Site}
    (h : build convert t readme templates linkPrefix = .ok site) :
    ∃ intro pages, List.Forall₂
        (fun x p => entityPage convert t templates t.navigation linkPrefix x = .ok p)
        t.entities pages ∧
      site.pages = indexPage t templates t.navigation intro :: (pages ++ assetPages templates) := by
  unfold build at h
  cases hintro : (convert readme).mapError SiteError.readme with
  | error e => simp [hintro, bind, Except.bind] at h
  | ok intro =>
    cases hpages : t.entities.mapM (entityPage convert t templates t.navigation linkPrefix) with
    | error e => simp [hintro, hpages, bind, Except.bind] at h
    | ok pages =>
      simp only [hintro, hpages, bind, Except.bind, pure, Except.pure, Except.ok.injEq] at h
      exact ⟨intro, pages, mapM_eq_ok_iff.1 hpages, by rw [← h]; rfl⟩

/-- The names of the assets, in the order of their pages. -/
def assetNames (templates : Templates) : List Bytes := (assetPages templates).map Page.path

theorem assetNames_perm (templates : Templates) :
    (assetNames templates).Perm (templates.assets.map Prod.fst) := by
  have hmap : assetNames templates =
      (templates.assets.mergeSort fun a b => Bytes.le a.1 b.1).map Prod.fst := by
    simp [assetNames, assetPages]
  rw [hmap]
  exact (List.mergeSort_perm _ _).map _

/-- The paths of a site: the index page, the keys in order of first declaration, the assets. -/
theorem paths_eq {site : Site} (ht : t.Invariant)
    (h : build convert t readme templates linkPrefix = .ok site) :
    site.paths = indexPath :: (t.order.map href ++ assetNames templates) := by
  obtain ⟨intro, pages, hpages, hsite⟩ := build_eq_ok h
  have hpaths : pages.map Page.path = t.order.map href := by
    rw [map_path hpages, ← ht.entities_map_key, List.map_map]
    rfl
  unfold paths assetNames
  rw [hsite, List.map_cons, List.map_append, hpaths]
  rfl

/-- Among the pages of entities, the page found for a path that only one of them has is the page of
    that entity. -/
theorem find?_entityPage {apiList : Bytes} {hs : List Handle} {pages : List Page} {h : Handle}
    (hpages : List.Forall₂
      (fun x p => entityPage convert t templates apiList linkPrefix x = .ok p) hs pages)
    (hmem : h ∈ hs)
    (honly : ∀ x ∈ hs, href (t.entity x).key = href (t.entity h).key → x = h) :
    ∃ p, entityPage convert t templates apiList linkPrefix h = .ok p ∧
      pages.find? (fun q => q.path = href (t.entity h).key) = some p := by
  induction hpages with
  | nil => simp at hmem
  | @cons x p hs' pages' hp _ ih =>
    have hpath := entityPage_path hp
    by_cases hx : x = h
    · subst hx
      exact ⟨p, hp, by simp [hpath]⟩
    · have hne : p.path ≠ href (t.entity h).key := fun heq =>
        hx (honly x List.mem_cons_self (hpath ▸ heq))
      have hmem' : h ∈ hs' := (List.mem_cons.1 hmem).resolve_left (Ne.symm hx)
      obtain ⟨p', hp', hfind⟩ := ih hmem' fun y hy => honly y (List.mem_cons_of_mem _ hy)
      exact ⟨p', hp', by rw [List.find?_cons_of_neg (by simpa using hne)]; exact hfind⟩

/-- When paths are pairwise distinct, for keys of which none has the path of the index page. -/
theorem paths_nodup_iff {site : Site} (ht : t.Invariant)
    (hnotIndex : ∀ k ∈ t.order, href k ≠ indexPath)
    (hnames : (templates.assets.map Prod.fst).Nodup)
    (hindex : ∀ a ∈ templates.assets, a.1 ≠ indexTemplate)
    (hbuild : build convert t readme templates linkPrefix = .ok site) :
    site.paths.Nodup ↔ (∀ k₁ ∈ t.order, ∀ k₂ ∈ t.order, ¬ SharesPage k₁ k₂) ∧
      ∀ k ∈ t.order, ∀ a ∈ templates.assets, a.1 ≠ href k := by
  have hmemNames : ∀ name, name ∈ assetNames templates ↔ ∃ a ∈ templates.assets, a.1 = name := by
    intro name
    rw [(assetNames_perm templates).mem_iff, List.mem_map]
  rw [paths_eq ht hbuild, List.nodup_cons, List.nodup_append',
    List.nodup_map_iff_inj_on ht.order_nodup, (assetNames_perm templates).nodup_iff]
  constructor
  · rintro ⟨-, hinj, -, hdisjoint⟩
    refine ⟨fun k₁ hk₁ k₂ hk₂ hshares => hshares.ne (hinj k₁ hk₁ k₂ hk₂ hshares.href_eq), ?_⟩
    intro k hk a ha hname
    exact hdisjoint (List.mem_map_of_mem hk) ((hmemNames _).2 ⟨a, ha, hname⟩)
  · rintro ⟨hkeys, hassets⟩
    refine ⟨?_, ?_, hnames, ?_⟩
    · -- the index page against the entities and the assets
      intro hmem
      rcases List.mem_append.1 hmem with hmem | hmem
      · obtain ⟨k, hk, heq⟩ := List.mem_map.1 hmem
        exact hnotIndex k hk heq
      · obtain ⟨a, ha, heq⟩ := (hmemNames _).1 hmem
        exact hindex a ha heq
    · -- two entities
      intro k₁ hk₁ k₂ hk₂ heq
      rcases href_eq_iff.1 heq with h | h | h
      · exact h
      · exact absurd h (hkeys k₁ hk₁ k₂ hk₂)
      · exact absurd h (hkeys k₂ hk₂ k₁ hk₁)
    · -- an entity and an asset
      intro path hpath hname
      obtain ⟨k, hk, rfl⟩ := List.mem_map.1 hpath
      obtain ⟨a, ha, heq⟩ := (hmemNames _).1 hname
      exact hassets k hk a ha heq

/-- A key that shares its path with no other key finds its own page. -/
theorem page?_href {site : Site} (ht : t.Invariant)
    (hbuild : build convert t readme templates linkPrefix = .ok site) {k : Bytes} {h : Handle}
    (hk : t.index.find? k = some h) (hnotIndex : href k ≠ indexPath)
    (hfree : ∀ k' ∈ t.order, ¬ SharesPage k k' ∧ ¬ SharesPage k' k) :
    ∃ p, entityPage convert t templates t.navigation linkPrefix h = .ok p ∧
      site.page? (href k) = some p := by
  obtain ⟨intro, pages, hpages, hsite⟩ := build_eq_ok hbuild
  have hkey : (t.entity h).key = k := (ht.stored k h hk).2
  have hmem : h ∈ t.entities := (ht.mem_entities_iff h).2 (hkey ▸ hk)
  have honly : ∀ x ∈ t.entities, href (t.entity x).key = href (t.entity h).key → x = h := by
    intro x hx heq
    have hx' := (ht.mem_entities_iff x).1 hx
    have horder : (t.entity x).key ∈ t.order := (ht.mem_order_iff _).2 (by simp [hx'])
    rw [hkey] at heq
    rcases href_eq_iff.1 heq with h' | h' | h'
    · rw [h'] at hx'
      exact Option.some.inj (hx'.symm.trans hk)
    · exact absurd h' (hfree _ horder).2
    · exact absurd h' (hfree _ horder).1
  obtain ⟨p, hp, hfind⟩ := find?_entityPage hpages hmem honly
  rw [hkey] at hfind
  refine ⟨p, hp, ?_⟩
  -- the index page comes first and has another path; the assets come after
  unfold page?
  rw [hsite, List.find?_cons_of_neg (by simp [indexPage, Ne.symm hnotIndex]), List.find?_append,
    hfind]
  rfl

end Site

/-- **Distinct paths, exactly when**: let assets have different names, none of them that of the index
    page.  The pages of a site of an accepted list of scripts have pairwise distinct paths exactly
    when no two of its keys are one of the pairs of `SharesPage` and no asset is named like the page
    of a key.  The index page shares its path with no entity in any case, and a key that is in no
    such pair finds its own page under its path. -/
theorem page_paths_distinct_iff (scripts : List Script) (t : Tree) (convert : Converter)
    (readme linkPrefix : Bytes) (templates : Templates) (site : Site)
    (hparse : (parseScripts scripts).1 = .ok t)
    (hnames : (templates.assets.map Prod.fst).Nodup)
    (hindex : ∀ a ∈ templates.assets, a.1 ≠ indexTemplate)
    (hbuild : Site.build convert t readme templates linkPrefix = .ok site) :
    (site.paths.Nodup ↔
      (∀ k₁ ∈ t.order, ∀ k₂ ∈ t.order, ¬ SharesPage k₁ k₂) ∧
        ∀ k ∈ t.order, ∀ a ∈ templates.assets, a.1 ≠ href k) ∧
      (∀ k ∈ t.order, href k ≠ indexPath) ∧
      ∀ k h, t.lookup? k = some h →
        (∀ k' ∈ t.order, ¬ SharesPage k k' ∧ ¬ SharesPage k' k) →
        ∃ p, Site.entityPage convert t templates t.navigation linkPrefix h = .ok p ∧
          site.page? (href k) = some p := by
  have hnested := parseScripts_nested hparse
  have ht := hnested.invariant
  have hnotIndex : ∀ k ∈ t.order, href k ≠ indexPath := by
    intro k hk
    obtain ⟨h, hh⟩ := Option.isSome_iff_exists.1 ((ht.mem_order_iff k).1 hk)
    obtain ⟨l, hl, hkey⟩ := hnested.declared k h hh
    exact href_ne_indexPath hl hkey
  refine ⟨Site.paths_nodup_iff ht hnotIndex hnames hindex hbuild, hnotIndex, ?_⟩
  intro k h hk hfree
  have hlookup : t.index.find? k = some h := hk
  have hmem : k ∈ t.order := (ht.mem_order_iff k).2 (by simp [hlookup])
  exact Site.page?_href ht hbuild hlookup (hnotIndex k hmem) hfree

/-- A class with a method and a style sheet: three pages of their own beside the index. -/
theorem page_paths_distinct_for_class :
    let scripts : List Script := [⟨bytes "a.js", bytes "/*?\nclass Foo\nFoo#bar() -> X\n**/"⟩]
    let templates : Templates := ⟨bytes "i", bytes "[[title]]", [(bytes "s.css", [])]⟩
    ∃ t site, (parseScripts scripts).1 = .ok t ∧
      Site.build .ok t [] templates [] = .ok site ∧ site.paths.Nodup := by
  intro scripts templates
  have hview : ((parseScripts scripts).1.toOption.map fun t =>
      (t.order, (Site.build .ok t [] templates []).isOk)) =
      some ([bytes "Foo", bytes "Foo#bar"], true) := by decide +kernel
  obtain ⟨t, hparse, hview⟩ := exists_tree_of_view hview
  obtain ⟨horder, hbuilt⟩ := Prod.mk.inj hview
  cases hbuild : Site.build .ok t [] templates [] with
  | error e => simp [hbuild, Except.isOk, Except.toBool] at hbuilt
  | ok site =>
    refine ⟨t, site, hparse, hbuild, ?_⟩
    have hinj : ∀ k₁ ∈ [bytes "Foo", bytes "Foo#bar"], ∀ k₂ ∈ [bytes "Foo", bytes "Foo#bar"],
        href k₁ = href k₂ → k₁ = k₂ := by decide
    have hassets : ∀ k ∈ [bytes "Foo", bytes "Foo#bar"], ∀ a ∈ templates.assets, a.1 ≠ href k := by
      decide
    refine (page_paths_distinct_iff scripts t .ok [] [] templates site hparse (by decide) (by decide)
      hbuild).1.2 ?_
    rw [horder]
    exact ⟨fun k₁ hk₁ k₂ hk₂ hs => hs.ne (hinj k₁ hk₁ k₂ hk₂ hs.href_eq), hassets⟩

/-- An instance method and a class method written with the text for its mark: two entities, two
    pages, one path. -/
theorem page_paths_clash :
    let scripts : List Script :=
      [⟨bytes "a.js", bytes "/*?\nFoo#bar() -> X\nFoo.prototype.bar() -> X\n**/"⟩]
    let templates : Templates := ⟨bytes "i", bytes "[[title]]", []⟩
    ∃ t site, (parseScripts scripts).1 = .ok t ∧
      Site.build .ok t [] templates [] = .ok site ∧
      t.order = [bytes "Foo#bar", bytes "Foo.prototype.bar"] ∧
      site.paths =
        [bytes "index.html", bytes "Foo.prototype.bar.html", bytes "Foo.prototype.bar.html"] ∧
      ¬ site.paths.Nodup := by
  intro scripts templates
  have hview : ((parseScripts scripts).1.toOption.map fun t =>
      (t.order, (Site.build .ok t [] templates []).toOption.map Site.paths)) =
      some ([bytes "Foo#bar", bytes "Foo.prototype.bar"],
        some [bytes "index.html", bytes "Foo.prototype.bar.html",
          bytes "Foo.prototype.bar.html"]) := by
    decide +kernel
  obtain ⟨t, hparse, hview⟩ := exists_tree_of_view hview
  obtain ⟨horder, hsite⟩ := Prod.mk.inj hview
  cases hbuild : Site.build .ok t [] templates [] with
  | error e => simp [hbuild, Except.toOption] at hsite
  | ok site =>
    have hpaths := Option.some.inj (hbuild ▸ hsite)
    exact ⟨t, site, hparse, hbuild, horder, hpaths, by rw [hpaths]; decide⟩

end DocPages
