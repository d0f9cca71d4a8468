import DocPages.Proofs.ByteText
import DocPages.Proofs.SessionRun

/-!
# Lines outside Documentation Blocks

What stands between the documentation blocks of a script is program text.  It may look like the end
of a block, like a declaration or like prose, and still nothing of it may reach the tree.  Two scripts
that differ only there are therefore read alike: the same lines are inside blocks, under the same
numbers, so the same declarations, notes and prose are applied and the same line is the first
unreadable one.  Only the banner, which may stand anywhere, can name another product.

## Main results

- `InBlock`: the lines inside blocks, said of the lines and not of the reader
- `EditedOutside`, `blockLinesFrom_edited`: editing the other lines keeps the block lines
- `Tree.attach_named`, `Session.step_named`: the product plays no part in what a line does
- `parseScripts_sameBlocks`: scripts with the same block lines have the same outcome
- `lines_outside_blocks_ignored`: reading scripts with such edits has the same outcome
-/

namespace DocPages

/-! ## §1 Inside and outside -/

/-- The byte that ends a line. -/
def newline : UInt8 := 0x0A

/-- Whether a line opens a block. -/
def opensBlock (raw : Bytes) : Bool := blockBegin.isPrefixOf (trim raw)

/-- Whether a line closes the block that it stands in. -/
def closesBlock (raw : Bytes) : Bool := blockEnd.isSuffixOf (trim raw)

/-- The line at position `i` lies inside a block: it or a line before it opens one, and no line from
    there to the one before `i` closes it. -/
def InBlock (lines : List Bytes) (i : Nat) : Prop :=
  ∃ j ≤ i, lines[j]?.any opensBlock = true ∧ ∀ m < i, j ≤ m → lines[m]?.any closesBlock = false

instance (lines : List Bytes) (i : Nat) : Decidable (InBlock lines i) :=
  inferInstanceAs (Decidable (∃ j ≤ i, _))

/-- The line at position `i` lies inside a block, when the first line may already be inside one. -/
def InBlockFrom (inside : Bool) (lines : List Bytes) (i : Nat) : Prop :=
  inside = true ∧ (∀ m < i, lines[m]?.any closesBlock = false) ∨ InBlock lines i

theorem inBlockFrom_false {lines : List Bytes} {i : Nat} :
    InBlockFrom false lines i ↔ InBlock lines i := by
  simp [InBlockFrom]

/-- Whether the line after `raw` starts inside a block. -/
def insideAfter (inside : Bool) (raw : Bytes) : Bool :=
  (inside || opensBlock raw) && !closesBlock raw

theorem inBlockFrom_zero {inside : Bool} {raw : Bytes} {rest : List Bytes} :
    InBlockFrom inside (raw :: rest) 0 ↔ (inside || opensBlock raw) = true := by
  simp [InBlockFrom, InBlock]

theorem inBlockFrom_succ {inside : Bool} {raw : Bytes} {rest : List Bytes} {i : Nat} :
    InBlockFrom inside (raw :: rest) (i + 1) ↔ InBlockFrom (insideAfter inside raw) rest i := by
  have hshift : ∀ j, (∀ m < i + 1, j + 1 ≤ m → (raw :: rest)[m]?.any closesBlock = false) ↔
      ∀ m < i, j ≤ m → rest[m]?.any closesBlock = false := by
    intro j
    constructor
    · intro h m hm hj
      simpa using h (m + 1) (by omega) (by omega)
    · intro h m hm hj
      obtain ⟨m, rfl⟩ : ∃ m', m = m' + 1 := ⟨m - 1, by omega⟩
      simpa using h m (by omega) (by omega)
  have hfirst : (∀ m < i + 1, (raw :: rest)[m]?.any closesBlock = false) ↔
      closesBlock raw = false ∧ ∀ m < i, rest[m]?.any closesBlock = false := by
    constructor
    · intro h
      exact ⟨by simpa using h 0 (by omega), fun m hm => by simpa using h (m + 1) (by omega)⟩
    · rintro ⟨hraw, h⟩ m hm
      cases m with
      | zero => simpa using hraw
      | succ m => simpa using h m (by omega)
  unfold InBlockFrom InBlock insideAfter
  constructor
  · rintro (⟨rfl, h⟩ | ⟨j, hj, hopens, h⟩)
    · obtain ⟨hraw, hrest⟩ := hfirst.1 h
      exact Or.inl ⟨by simp [hraw], hrest⟩
    · cases j with
      | zero =>
        -- the first line opens the block, so the rest starts inside it
        obtain ⟨hraw, hrest⟩ := hfirst.1 fun m hm => h m hm (Nat.zero_le m)
        have hopens : opensBlock raw = true := by simpa using hopens
        exact Or.inl ⟨by simp [hraw, hopens], hrest⟩
      | succ j => exact Or.inr ⟨j, by omega, by simpa using hopens, (hshift j).1 h⟩
  · rintro (⟨hinside, hrest⟩ | ⟨j, hj, hopens, h⟩)
    · simp only [Bool.and_eq_true, Bool.or_eq_true, Bool.not_eq_true'] at hinside
      obtain ⟨hinside | hopens, hraw⟩ := hinside
      · exact Or.inl ⟨hinside, hfirst.2 ⟨hraw, hrest⟩⟩
      · refine Or.inr ⟨0, Nat.zero_le _, by simpa using hopens, fun m hm _ => ?_⟩
        exact hfirst.2 ⟨hraw, hrest⟩ m hm
    · exact Or.inr ⟨j + 1, by omega, by simpa using hopens, (hshift j).2 h⟩

/-! ## §2 Edits outside blocks -/

/-- `lines'` are `lines` with some of the lines outside blocks replaced, each by one line that opens no
    block. -/
structure EditedOutside (lines lines' : List Bytes) : Prop where
  length : lines'.length = lines.length
  edited : ∀ i < lines.length, lines'[i]? = lines[i]? ∨
    ¬ InBlock lines i ∧ ∀ raw' ∈ lines'[i]?, newline ∉ raw' ∧ opensBlock raw' = false

/-- The lines of a text. -/
def textLines (text : Bytes) : List Bytes := Bytes.splitOn newline text

/-- `s'` is the script `s` with some lines outside its blocks replaced. -/
def Script.EditedOutside (s s' : Script) : Prop :=
  s'.name = s.name ∧
    ∃ lines', DocPages.EditedOutside (textLines s.text) lines' ∧ s'.text = Bytes.join [newline] lines'

theorem blockLinesFrom_cons (inside : Bool) (number : Nat) (raw : Bytes) (rest : List Bytes) :
    blockLinesFrom inside number (raw :: rest) =
      (if inside || opensBlock raw then
        [⟨number, stripDecoration (trim raw), closesBlock raw⟩] else []) ++
        blockLinesFrom (insideAfter inside raw) (number + 1) rest := by
  rw [blockLinesFrom]
  by_cases h : (inside || opensBlock raw) = true
  · have h' : (inside || blockBegin.isPrefixOf (trim raw)) = true := h
    simp only [h', h, if_true, insideAfter, Bool.true_and]
    rfl
  · have h' : ¬ (inside || blockBegin.isPrefixOf (trim raw)) = true := h
    simp [h', h, insideAfter]

/-- Editing lines outside blocks keeps the lines inside them and their numbers. -/
theorem blockLinesFrom_edited {inside : Bool} {number : Nat} {lines lines' : List Bytes}
    (hlength : lines'.length = lines.length)
    (hedited : ∀ i < lines.length, lines'[i]? = lines[i]? ∨
      ¬ InBlockFrom inside lines i ∧ ∀ raw' ∈ lines'[i]?, opensBlock raw' = false) :
    blockLinesFrom inside number lines' = blockLinesFrom inside number lines := by
  induction lines generalizing inside number lines' with
  | nil => rw [List.length_eq_zero_iff.1 hlength]
  | cons raw rest ih =>
    obtain ⟨raw', rest', rfl⟩ : ∃ raw' rest', lines' = raw' :: rest' :=
      List.exists_cons_of_length_pos (by simp [hlength])
    -- both readers are inside a block after the first line, or both outside
    have hrest : ∀ i < rest.length, rest'[i]? = rest[i]? ∨
        ¬ InBlockFrom (insideAfter inside raw) rest i ∧
          ∀ r' ∈ rest'[i]?, opensBlock r' = false := by
      intro i hi
      rw [← inBlockFrom_succ]
      simpa using hedited (i + 1) (by simpa using hi)
    have htail : blockLinesFrom (insideAfter inside raw) (number + 1) rest' =
        blockLinesFrom (insideAfter inside raw) (number + 1) rest := ih (by simpa using hlength) hrest
    rw [blockLinesFrom_cons, blockLinesFrom_cons]
    rcases hedited 0 (by simp) with hsame | ⟨houtside, hopens⟩
    · obtain rfl : raw' = raw := by simpa using hsame
      rw [htail]
    · have hopens : opensBlock raw' = false := hopens raw' rfl
      rw [inBlockFrom_zero] at houtside
      simp only [Bool.or_eq_true, not_or, Bool.not_eq_true] at houtside
      obtain ⟨rfl, hraw⟩ := houtside
      have hafter : insideAfter false raw' = insideAfter false raw := by
        simp [insideAfter, hopens, hraw]
      rw [hafter, htail, hopens, hraw]
      rfl

/-- The replaced lines are single lines, so the text splits into the edited lines again. -/
theorem EditedOutside.textLines_join {text : Bytes} {lines' : List Bytes}
    (h : EditedOutside (textLines text) lines') :
    textLines (Bytes.join [newline] lines') = lines' := by
  refine Bytes.splitOn_join ?_ ?_
  · intro hnil
    have hlength := h.length
    rw [hnil, eq_comm, List.length_nil, List.length_eq_zero_iff] at hlength
    exact Bytes.splitOn_ne_nil _ _ hlength
  · intro raw' hmem
    obtain ⟨i, hi⟩ := List.mem_iff_getElem?.1 hmem
    have hlt : i < (textLines text).length :=
      h.length ▸ (List.getElem?_eq_some_iff.1 hi).1
    rcases h.edited i hlt with hsame | ⟨-, hfree⟩
    · exact Bytes.notMem_of_mem_splitOn (List.mem_iff_getElem?.2 ⟨i, hsame ▸ hi⟩)
    · exact (hfree raw' hi).1

/-- `s'` is called like `s` and has the same lines inside blocks. -/
def Script.SameBlocks (s s' : Script) : Prop :=
  s'.name = s.name ∧ blockLines s'.text = blockLines s.text

theorem Script.EditedOutside.sameBlocks {s s' : Script} (h : s.EditedOutside s') : s.SameBlocks s' := by
  obtain ⟨hname, lines', hlines, htext⟩ := h
  refine ⟨hname, ?_⟩
  change blockLinesFrom false 1 (textLines s'.text) = blockLinesFrom false 1 (textLines s.text)
  rw [htext, hlines.textLines_join]
  refine blockLinesFrom_edited hlines.length ?_
  intro i hi
  rw [inBlockFrom_false]
  exact (hlines.edited i hi).imp id fun h => ⟨h.1, fun raw' hraw' => (h.2 raw' hraw').2⟩

/-! ## §3 The product -/

namespace Tree

/-- The tree under another product name. -/
def named (t : Tree) (product : Bytes) : Tree := { t with product }

variable (t : Tree) (product : Bytes)

theorem modifyContainer_named (owner : Option Handle) (f : List Handle → List Handle) :
    (t.named product).modifyContainer owner f = (t.modifyContainer owner f).named product := by
  cases owner <;> rfl

theorem registerClass_named (key : Bytes) (h : Handle) :
    (t.named product).registerClass key h = (t.registerClass key h).named product := by
  have hentity : (t.named product).entity h = t.entity h := rfl
  unfold registerClass
  rw [hentity]
  split <;> rfl

theorem register_named (key : Bytes) (h : Handle) (owner : Option Handle) :
    (t.named product).register key h owner = (t.register key h owner).named product :=
  registerClass_named { t with index := t.index.put key h, owners := t.owners.put key owner }
    product key h

theorem retire_named (key : Bytes) (old h : Handle) :
    (t.named product).retire key old h = (t.retire key old h).named product := by
  cases hold : (t.entity old).isClass with
  | false => rw [(t.named product).retire_of_not_class key old h hold, t.retire_of_not_class key old h hold]
  | true =>
    cases hnew : (t.entity h).isClass with
    | false =>
      rw [(t.named product).retire_to_other key old h hold hnew, t.retire_to_other key old h hold hnew]
      rfl
    | true =>
      rw [(t.named product).retire_to_class key old h hold hnew, t.retire_to_class key old h hold hnew]
      rfl

theorem relocate_named (old h : Handle) (oldOwner owner : Option Handle) :
    (t.named product).relocate old h oldOwner owner =
      (t.relocate old h oldOwner owner).named product := by
  have hcontainer : (t.named product).container owner = t.container owner := by cases owner <;> rfl
  unfold relocate
  rw [hcontainer]
  split
  · split <;> exact modifyContainer_named _ _ _ _
  · rw [modifyContainer_named, modifyContainer_named]

/-- Attaching an entity does not look at the product. -/
theorem attach_named (h : Handle) (owner : Option Handle) :
    (t.named product).attach h owner =
      ((t.attach h owner).1.named product, (t.attach h owner).2) := by
  have hlookup : (t.named product).lookup? ((t.named product).entity h).key =
    t.lookup? (t.entity h).key := rfl
  unfold attach
  simp only [hlookup]
  split
  · have hlisted : ({ t.named product with
        order := (t.named product).order ++ [((t.named product).entity h).key] } : Tree) =
          Tree.named { t with order := t.order ++ [(t.entity h).key] } product := rfl
    rw [hlisted]
    exact congrArg (·, none) (by rw [register_named, modifyContainer_named]; rfl)
  · rw [retire_named, register_named, relocate_named]
    rfl

end Tree

namespace Session

/-- The state with another product name in its tree. -/
def named (s : Session) (product : Bytes) : Session := { s with tree := s.tree.named product }

variable (s : Session) (product : Bytes)

theorem declare_named (e : Entity) (owner : Option Handle) :
    (s.named product).declare e owner = (s.declare e owner).named product := by
  have hcreate : (s.named product).tree.create e =
    ((s.tree.create e).1.named product, (s.tree.create e).2) := rfl
  unfold declare
  rw [hcreate]
  dsimp only
  rw [Tree.attach_named]
  dsimp only
  split <;> rfl

theorem resolveOwner_named (d : Declaration) (source : Bytes) (line : Nat) :
    (s.named product).resolveOwner d source line =
      ((s.resolveOwner d source line).1.named product, (s.resolveOwner d source line).2) := by
  have hclass : (s.named product).tree.class? d.classKey = s.tree.class? d.classKey := rfl
  unfold resolveOwner
  rw [hclass]
  split <;> rfl

/-- A line does to the state what it would do under another product name. -/
theorem step_named (l : Line) (source : Bytes) (number : Nat) :
    (s.named product).step l source number = (s.step l source number).named product := by
  cases l with
  | prose text =>
    simp only [step, proseLine, named]
    split <;> rfl
  | classLine key => exact s.declare_named product _ _
  | constructorLine d =>
    simp only [step, constructorLine, resolveOwner_named]
    have hconstructor : (s.resolveOwner d source number).2.bind
        ((s.resolveOwner d source number).1.named product).tree.constructor? =
      (s.resolveOwner d source number).2.bind (s.resolveOwner d source number).1.tree.constructor? :=
      rfl
    rw [hconstructor]
    split
    · rfl
    · exact declare_named _ product _ _
  | instanceMethodLine d =>
    simp only [step, methodLine, resolveOwner_named]
    exact declare_named _ product _ _
  | classMethodLine d =>
    simp only [step, methodLine, resolveOwner_named]
    exact declare_named _ product _ _
  | noteLine n =>
    have hentity : ∀ h, (s.named product).tree.entity h = s.tree.entity h := fun _ => rfl
    have hcurrent : (s.named product).current = s.current := rfl
    simp only [step, noteLine, hentity, hcurrent]
    split
    · rfl
    · split
      · rfl
      · split <;> rfl

theorem readLines_named (source : Bytes) (ls : List BlockLine) :
    readLines source ls (s.named product) =
      ((readLines source ls s).1.named product, (readLines source ls s).2) := by
  induction ls generalizing s with
  | nil => rfl
  | cons l rest ih =>
    unfold readLines
    split
    · rfl
    · next line _ =>
      have hclose : (if l.closing then ((s.named product).step line source l.number).close
          else (s.named product).step line source l.number) =
          (if l.closing then (s.step line source l.number).close
            else s.step line source l.number).named product := by
        rw [step_named]
        split <;> rfl
      dsimp only
      rw [hclose]
      exact ih _

/-- Whatever banners two texts have, the states after them differ in the product alone. -/
theorem exists_readBanner_named (text text' : Bytes) :
    ∃ product', (s.named product).readBanner text' = (s.readBanner text).named product' := by
  have hbanner : ∀ text, ∃ p, s.readBanner text = s.named p := by
    intro text
    unfold readBanner
    split
    · next p _ => exact ⟨p, rfl⟩
    · exact ⟨s.tree.product, rfl⟩
  obtain ⟨p, hp⟩ := hbanner text
  rw [hp]
  unfold readBanner
  split
  · next p' _ => exact ⟨p', rfl⟩
  · exact ⟨product, rfl⟩

/-- Reading a script with the same block lines is reading the script, the product apart. -/
theorem readScript_sameBlocks {script script' : Script} (h : script.SameBlocks script') :
    ∃ product', (s.named product).readScript script' =
      ((s.readScript script).1.named product', (s.readScript script).2) := by
  obtain ⟨product', hbanner⟩ := s.exists_readBanner_named product script.text script'.text
  refine ⟨product', ?_⟩
  unfold readScript
  rw [h.1, h.2, hbanner, readLines_named]
  rcases readLines script.name (blockLines script.text) (s.readBanner script.text) with ⟨s₁, _ | e⟩
  · rfl
  · rfl

/-- Reading scripts with the same block lines is reading the scripts, the product apart. -/
theorem readScripts_sameBlocks {scripts scripts' : List Script}
    (h : List.Forall₂ Script.SameBlocks scripts scripts') :
    ∃ product', readScripts scripts' (s.named product) =
      ((readScripts scripts s).1.named product', (readScripts scripts s).2) := by
  induction h generalizing s product with
  | nil => exact ⟨product, rfl⟩
  | cons hscript _ ih =>
    obtain ⟨p, hp⟩ := s.readScript_sameBlocks product hscript
    unfold readScripts
    rw [hp]
    -- a script that ends with a block still open closes what was open in it
    rcases hread : s.readScript _ with ⟨s₁, _ | e⟩
    · exact ih s₁ p
    · exact ⟨p, rfl⟩

end Session

/-- Scripts with the same block lines are read with the same outcome, the product apart. -/
theorem parseScripts_sameBlocks {scripts scripts' : List Script}
    (h : List.Forall₂ Script.SameBlocks scripts scripts') :
    ∃ product, (parseScripts scripts').1 =
        (parseScripts scripts).1.map (fun t => { t with product }) ∧
      (parseScripts scripts').2 = (parseScripts scripts).2 := by
  obtain ⟨product, hread⟩ := Session.start.readScripts_sameBlocks [] h
  refine ⟨product, ?_⟩
  have hstart : Session.start.named [] = Session.start := rfl
  rw [hstart] at hread
  unfold parseScripts
  rw [hread, h.length_eq]
  rcases Session.readScripts scripts Session.start with ⟨s, _ | e⟩
  · exact ⟨rfl, rfl⟩
  · exact ⟨rfl, rfl⟩

/-- **Lines outside blocks do not matter**: when lines outside the blocks of some scripts are replaced
    by other lines that open no block, the scripts are read with the same outcome.  The first
    unreadable declaration is the same, or else the tree is, its product apart; and the same records
    are made on the way.  What counts as inside is said of each script alone, so a block left open at
    the end of a script reaches no line of the next one. -/
theorem lines_outside_blocks_ignored (scripts scripts' : List Script)
    (h : List.Forall₂ Script.EditedOutside scripts scripts') :
    ∃ product, (parseScripts scripts').1 =
        (parseScripts scripts).1.map (fun t => { t with product }) ∧
      (parseScripts scripts').2 = (parseScripts scripts).2 :=
  parseScripts_sameBlocks (h.imp fun _ _ hscript => hscript.sameBlocks)

/-- The first script leaves its block open, and the second one begins with what would be a declaration
    and prose inside it; these lines, a stray end of a block and the lines at the end are replaced. -/
theorem program_text_ignored :
    let scripts : List Script :=
      [⟨bytes "a.js", bytes "x **/\n/*?\nclass Foo\nSome prose"⟩,
        ⟨bytes "b.js", bytes "Foo#run() -> X\nmore\n/*?\nFoo.make() -> Foo\n**/\na\nb\nc"⟩]
    let scripts' : List Script :=
      [⟨bytes "a.js", bytes "new Foo()\n/*?\nclass Foo\nSome prose"⟩,
        ⟨bytes "b.js", bytes "**/\nclass Bar\n/*?\nFoo.make() -> Foo\n**/\n/*!\n * Lib\n"⟩]
    List.Forall₂ Script.EditedOutside scripts scripts' ∧
      ∃ t product, (parseScripts scripts).1 = .ok t ∧
        (parseScripts scripts').1 = .ok { t with product } ∧ t.product = [] ∧
        product = bytes "Lib" ∧ t.order = [bytes "Foo", bytes "Foo.make"] ∧
        (t.entity 0).text = bytes "Some prose\n" := by
  intro scripts scripts'
  have hedited : List.Forall₂ Script.EditedOutside scripts scripts' := by
    refine .cons ⟨rfl, [bytes "new Foo()", bytes "/*?", bytes "class Foo", bytes "Some prose"],
      ⟨by decide, by decide⟩, by decide⟩ (.cons ⟨rfl, [bytes "**/", bytes "class Bar", bytes "/*?",
      bytes "Foo.make() -> Foo", bytes "**/", bytes "/*!", bytes " * Lib", []],
      ⟨by decide, by decide⟩, by decide⟩ .nil)
  have hview : (parseScripts scripts).1.toOption.map
      (fun t => (t.product, t.order, (t.entity 0).text)) =
        some ([], [bytes "Foo", bytes "Foo.make"], bytes "Some prose\n") := by decide
  have hview' : (parseScripts scripts').1.toOption.map Tree.product = some (bytes "Lib") := by decide
  obtain ⟨t, hparse, ht⟩ := exists_tree_of_view hview
  obtain ⟨t', hparse', ht'⟩ := exists_tree_of_view hview'
  obtain ⟨product, hsame, -⟩ := lines_outside_blocks_ignored scripts scripts' hedited
  rw [hparse] at hsame
  obtain rfl : t' = { t with product } := Except.ok.inj (hparse'.symm.trans hsame)
  simp only [Prod.mk.injEq] at ht
  exact ⟨hedited, t, product, hparse, hsame, ht.1, ht', ht.2.1, ht.2.2⟩

end DocPages
