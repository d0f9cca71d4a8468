import DocPages.Proofs.OutsideBlocks
import DocPages.Proofs.Trimming

/-!
# Line Endings

Scripts come with lines that end in a newline, or in a carriage return and a newline.  The lines inside
blocks are trimmed, so the carriage return never shows there, and the banner allows for it at the end of
its two lines.  What it does not allow for is a banner without a name: where nothing follows the star,
the carriage return itself is taken for the name.  So the line endings of a list of scripts are without
effect except when the banner that decides the product is such an empty one.

## Main results

- `withCarriageReturns`: a text with the other line ending
- `textLines_withCarriageReturns`, `Script.sameBlocks_withCarriageReturns`: block lines stay as they are
- `bannerName?_of_notMem`, `bannerName?_withCarriageReturns`: a banner under both line endings
- `productName?_of_notMem`, `productName?_withCarriageReturns`: the product of a script under both
- `product_of_parseScripts`: the product of a list of scripts
- `line_endings_ignored_unless_nameless`: when the line endings of scripts are without effect
-/

namespace DocPages

/-! ## §1 The other line ending -/

/-- The byte that may stand in front of a newline. -/
def carriageReturn : UInt8 := 0x0D

/-- A text with a carriage return in front of each newline. -/
def withCarriageReturns (text : Bytes) : Bytes :=
  text.flatMap fun b => if b = newline then [carriageReturn, newline] else [b]

/-- A script with a carriage return in front of each newline. -/
def Script.withCarriageReturns (s : Script) : Script :=
  { s with text := DocPages.withCarriageReturns s.text }

theorem withCarriageReturns_newline_cons (s : Bytes) :
    withCarriageReturns (newline :: s) = carriageReturn :: newline :: withCarriageReturns s := rfl

theorem withCarriageReturns_cons_of_ne {b : UInt8} (hb : b ≠ newline) (s : Bytes) :
    withCarriageReturns (b :: s) = b :: withCarriageReturns s := by
  simp [withCarriageReturns, hb]

theorem withCarriageReturns_append (s t : Bytes) :
    withCarriageReturns (s ++ t) = withCarriageReturns s ++ withCarriageReturns t := by
  simp [withCarriageReturns]

theorem withCarriageReturns_of_notMem {s : Bytes} (h : newline ∉ s) : withCarriageReturns s = s := by
  induction s with
  | nil => rfl
  | cons b s ih =>
    rw [List.mem_cons, not_or] at h
    rw [withCarriageReturns_cons_of_ne (Ne.symm h.1), ih h.2]

/-- Each line stays as it is or gains a carriage return at its end. -/
theorem textLines_withCarriageReturns (text : Bytes) :
    List.Forall₂ (fun line line' => line' = line ∨ line' = line ++ [carriageReturn])
      (textLines text) (textLines (withCarriageReturns text)) := by
  unfold textLines
  induction text with
  | nil => exact .cons (Or.inl rfl) .nil
  | cons b text ih =>
    by_cases hb : b = newline
    · subst hb
      have hlines : Bytes.splitOn newline (newline :: text) = [] :: Bytes.splitOn newline text :=
        Bytes.splitOn_append_cons (List.not_mem_nil) text
      have hlines' : Bytes.splitOn newline (withCarriageReturns (newline :: text)) =
          [carriageReturn] :: Bytes.splitOn newline (withCarriageReturns text) :=
        Bytes.splitOn_append_cons (x := [carriageReturn]) (by decide) _
      rw [hlines, hlines']
      exact .cons (Or.inr rfl) ih
    · -- the byte goes to the front of the first line on both sides
      obtain ⟨line, more, hsplit, hcons⟩ := Bytes.splitOn_cons_of_ne hb text
      obtain ⟨line', more', hsplit', hcons'⟩ := Bytes.splitOn_cons_of_ne hb (withCarriageReturns text)
      rw [hsplit, hsplit'] at ih
      rw [withCarriageReturns_cons_of_ne hb, hcons, hcons']
      cases ih with
      | cons hline hmore =>
        refine .cons (hline.imp ?_ ?_) hmore
        · rintro rfl
          rfl
        · rintro rfl
          rfl

/-- Only the trimmed lines of a script decide which of them are inside blocks and what they say. -/
theorem blockLinesFrom_of_trim_eq {lines lines' : List Bytes}
    (h : List.Forall₂ (fun line line' => trim line' = trim line) lines lines') (inside : Bool)
    (number : Nat) : blockLinesFrom inside number lines' = blockLinesFrom inside number lines := by
  induction h generalizing inside number with
  | nil => rfl
  | cons hline _ ih => simp only [blockLinesFrom, hline, ih]

theorem Script.sameBlocks_withCarriageReturns (s : Script) : s.SameBlocks s.withCarriageReturns := by
  refine ⟨rfl, blockLinesFrom_of_trim_eq ?_ false 1⟩
  apply (textLines_withCarriageReturns s.text).imp
  rintro line line' (rfl | rfl)
  · rfl
  · exact trim_append_blank line (by decide) (by decide)

/-! ## §2 Banners -/

/-- What follows the star in the second line of a banner that starts here; it may be nothing. -/
def bannerLine? (s : Bytes) : Option Bytes :=
  (Bytes.dropPrefix? (bytes "/*!\n * ") s).bind fun rest =>
    (Bytes.cutFirst? [newline] rest).map Prod.fst

theorem bannerLine?_eq_some_iff {s name : Bytes} :
    bannerLine? s = some name ↔
      ∃ rest, s = bytes "/*!\n * " ++ name ++ newline :: rest ∧ newline ∉ name := by
  simp only [bannerLine?, Option.bind_eq_some_iff, Option.map_eq_some_iff, Prod.exists,
    Bytes.dropPrefix?_eq_some_iff, Bytes.cutFirst?_byte_eq_some_iff]
  constructor
  · rintro ⟨_, rfl, _, rest, ⟨rfl, hname⟩, rfl⟩
    exact ⟨rest, by simp, hname⟩
  · rintro ⟨rest, rfl, hname⟩
    exact ⟨_, by simp, name, rest, ⟨rfl, hname⟩, rfl⟩

/-- The banners of a text from left to right, each by what follows its star. -/
def bannerLines : Bytes → List Bytes
  | [] => []
  | b :: s => (bannerLine? (b :: s)).toList ++ bannerLines s

/-- Every banner stands in the text. -/
theorem infix_of_mem_bannerLines {s name : Bytes} (h : name ∈ bannerLines s) : name <:+: s := by
  induction s with
  | nil => simp [bannerLines] at h
  | cons b s ih =>
    rw [bannerLines, List.mem_append, Option.mem_toList] at h
    rcases h with h | h
    · obtain ⟨rest, hs, -⟩ := bannerLine?_eq_some_iff.1 h
      exact ⟨bytes "/*!\n * ", newline :: rest, hs.symm⟩
    · exact (ih h).trans (List.suffix_cons b s).isInfix

/-! ## §3 The name in a banner -/

theorem trimSuffix_of_notMem {b : UInt8} {s : Bytes} (h : b ∉ s) : Bytes.trimSuffix [b] s = s := by
  cases hdrop : Bytes.dropSuffix? [b] s with
  | none => simp [Bytes.trimSuffix, hdrop]
  | some r =>
    rw [Bytes.dropSuffix?_eq_some_iff] at hdrop
    exact absurd (by simp [hdrop]) h

/-- The name that is read off the second line of a banner. -/
def bannerWord? : Bytes → Option Bytes
  | [] => none
  | [b] => some [b]
  | line => some (Bytes.trimSuffix [carriageReturn] line)

theorem bannerWord?_of_notMem {line : Bytes} (h : carriageReturn ∉ line) :
    bannerWord? line = (some line).filter (· ≠ []) := by
  have hsuffix := trimSuffix_of_notMem h
  rcases line with _ | ⟨b, _ | ⟨c, line⟩⟩
  · rfl
  · rfl
  · exact congrArg some hsuffix

/-- The name of a banner whose lines end in carriage returns: a banner without a name gets the carriage
    return that ends its second line. -/
def nameBeforeReturn (line : Bytes) : Bytes := if line = [] then [carriageReturn] else line

theorem bannerWord?_append_carriageReturn (line : Bytes) :
    bannerWord? (line ++ [carriageReturn]) = some (nameBeforeReturn line) := by
  cases line with
  | nil => rfl
  | cons b line =>
    have hdrop : Bytes.dropSuffix? [carriageReturn] (b :: line ++ [carriageReturn]) =
        some (b :: line) := Bytes.dropSuffix?_eq_some_iff.2 rfl
    have hsuffix : Bytes.trimSuffix [carriageReturn] (b :: line ++ [carriageReturn]) = b :: line := by
      simp only [Bytes.trimSuffix, hdrop, Option.getD_some]
    cases line with
    | nil => exact congrArg some hsuffix
    | cons c line => exact congrArg some hsuffix

/-- The steps of reading a banner. -/
theorem bannerName?_eq (s : Bytes) :
    bannerName? s = (Bytes.dropPrefix? (bytes "/*!") s).bind fun rest =>
      (Bytes.dropPrefix? (bytes "\n * ") (Bytes.trimPrefix [carriageReturn] rest)).bind fun line =>
        (Bytes.cutFirst? [newline] line).bind fun parts => bannerWord? parts.1 := by
  have hreturn : bytes "\r" = [carriageReturn] := rfl
  have hnewline : bytes "\n" = [newline] := rfl
  simp only [bannerName?, hreturn, hnewline, Option.bind_eq_bind]
  congr 1
  funext rest
  congr 1
  funext line
  cases Bytes.cutFirst? [newline] line with
  | none => rfl
  | some parts =>
    rcases parts with ⟨_ | ⟨b, _ | ⟨c, name⟩⟩, tail⟩
    · rfl
    · rfl
    · rfl

theorem bannerLine?_eq (s : Bytes) :
    bannerLine? s = (Bytes.dropPrefix? (bytes "/*!") s).bind fun rest =>
      (Bytes.dropPrefix? (bytes "\n * ") rest).bind fun line =>
        (Bytes.cutFirst? [newline] line).map Prod.fst := by
  have hmark : bytes "/*!\n * " = bytes "/*!" ++ bytes "\n * " := by decide
  rw [bannerLine?, hmark, Bytes.dropPrefix?_append, Option.bind_assoc]

/-- Without carriage returns a banner names what follows its star, unless that is nothing. -/
theorem bannerName?_of_notMem {s : Bytes} (h : carriageReturn ∉ s) :
    bannerName? s = (bannerLine? s).filter (· ≠ []) := by
  rw [bannerName?_eq, bannerLine?_eq]
  cases hopen : Bytes.dropPrefix? (bytes "/*!") s with
  | none => rfl
  | some rest =>
    obtain rfl := Bytes.dropPrefix?_eq_some_iff.1 hopen
    have hrest : carriageReturn ∉ rest := fun hmem => h (List.mem_append_right _ hmem)
    simp only [Option.bind_some, Bytes.trimPrefix_of_notMem hrest]
    cases hstar : Bytes.dropPrefix? (bytes "\n * ") rest with
    | none => rfl
    | some line =>
      obtain rfl := Bytes.dropPrefix?_eq_some_iff.1 hstar
      simp only [Option.bind_some]
      cases hcut : Bytes.cutFirst? [newline] line with
      | none => rfl
      | some parts =>
        obtain ⟨hline, -⟩ := Bytes.cutFirst?_byte_eq_some_iff.1 hcut
        have hname : carriageReturn ∉ parts.1 := fun hmem => hrest (by simp [hline, hmem])
        exact bannerWord?_of_notMem hname

/-- A mark within one line is found in the same places under both line endings. -/
theorem dropPrefix?_withCarriageReturns {p : Bytes} (hnewline : newline ∉ p)
    (hreturn : carriageReturn ∉ p) (s : Bytes) :
    Bytes.dropPrefix? p (withCarriageReturns s) = (Bytes.dropPrefix? p s).map withCarriageReturns := by
  induction p generalizing s with
  | nil => rfl
  | cons a p ih =>
    rw [List.mem_cons, not_or] at hnewline hreturn
    cases s with
    | nil => rfl
    | cons b s =>
      by_cases hb : b = newline
      · subst hb
        rw [withCarriageReturns_newline_cons]
        simp [Bytes.dropPrefix?, Ne.symm hnewline.1, Ne.symm hreturn.1]
      · rw [withCarriageReturns_cons_of_ne hb]
        unfold Bytes.dropPrefix?
        split
        · exact ih hnewline.2 hreturn.2 s
        · rfl

/-- The second line of a banner begins in the same places under both line endings. -/
theorem dropStar?_withCarriageReturns {s : Bytes} (h : carriageReturn ∉ s) :
    Bytes.dropPrefix? (bytes "\n * ") (Bytes.trimPrefix [carriageReturn] (withCarriageReturns s)) =
      (Bytes.dropPrefix? (bytes "\n * ") s).map withCarriageReturns := by
  cases s with
  | nil => rfl
  | cons b s =>
    by_cases hb : b = newline
    · subst hb
      exact dropPrefix?_withCarriageReturns (p := bytes " * ") (by decide) (by decide) s
    · have hreturn : carriageReturn ≠ b := fun heq => h (heq ▸ List.mem_cons_self)
      have htrim : Bytes.trimPrefix [carriageReturn] (b :: withCarriageReturns s) =
          b :: withCarriageReturns s := by
        simp [Bytes.trimPrefix, Bytes.dropPrefix?, hreturn]
      have hnone : ∀ rest, Bytes.dropPrefix? (bytes "\n * ") (b :: rest) = none :=
        fun rest => if_neg (Ne.symm hb)
      rw [withCarriageReturns_cons_of_ne hb, htrim, hnone, hnone]
      rfl

/-- A line gains a carriage return in front of the newline that ends it. -/
theorem cutLine?_withCarriageReturns (s : Bytes) :
    Bytes.cutFirst? [newline] (withCarriageReturns s) =
      (Bytes.cutFirst? [newline] s).map fun parts =>
        (parts.1 ++ [carriageReturn], withCarriageReturns parts.2) := by
  cases hcut : Bytes.cutFirst? [newline] s with
  | none =>
    rw [withCarriageReturns_of_notMem (Bytes.cutFirst?_byte_eq_none_iff.1 hcut), hcut]
    rfl
  | some parts =>
    obtain ⟨rfl, hline⟩ := Bytes.cutFirst?_byte_eq_some_iff.1 hcut
    apply Bytes.cutFirst?_byte_eq_some_iff.2
    constructor
    · rw [withCarriageReturns_append, withCarriageReturns_of_notMem hline,
        withCarriageReturns_newline_cons]
      simp
    · simp only [List.mem_append, List.mem_singleton, not_or]
      exact ⟨hline, by decide⟩

/-- With carriage returns a banner names what follows its star, or the carriage return there. -/
theorem bannerName?_withCarriageReturns {s : Bytes} (h : carriageReturn ∉ s) :
    bannerName? (withCarriageReturns s) = (bannerLine? s).map nameBeforeReturn := by
  rw [bannerName?_eq, bannerLine?_eq, dropPrefix?_withCarriageReturns (by decide) (by decide)]
  cases hopen : Bytes.dropPrefix? (bytes "/*!") s with
  | none => rfl
  | some rest =>
    obtain rfl := Bytes.dropPrefix?_eq_some_iff.1 hopen
    have hrest : carriageReturn ∉ rest := fun hmem => h (List.mem_append_right _ hmem)
    simp only [Option.map_some, Option.bind_some, dropStar?_withCarriageReturns hrest]
    cases Bytes.dropPrefix? (bytes "\n * ") rest with
    | none => rfl
    | some line =>
      simp only [Option.map_some, Option.bind_some, cutLine?_withCarriageReturns]
      cases Bytes.cutFirst? [newline] line with
      | none => rfl
      | some parts => exact bannerWord?_append_carriageReturn parts.1

/-! ## §4 The product of a script -/

/-- A banner begins with a slash. -/
theorem bannerName?_cons_of_ne {b : UInt8} (hb : byte '/' ≠ b) (s : Bytes) :
    bannerName? (b :: s) = none := by
  have hdrop : Bytes.dropPrefix? (bytes "/*!") (b :: s) = none := if_neg hb
  rw [bannerName?_eq, hdrop, Option.bind_none]

/-- Without carriage returns the first banner that has a name gives the product. -/
theorem productName?_of_notMem {s : Bytes} (h : carriageReturn ∉ s) :
    productName? s = (bannerLines s).find? (· ≠ []) := by
  induction s with
  | nil => rfl
  | cons b s ih =>
    have hrest : carriageReturn ∉ s := fun hmem => h (List.mem_cons_of_mem _ hmem)
    rw [productName?, bannerName?_of_notMem h, ih hrest, bannerLines, List.find?_append]
    cases bannerLine? (b :: s) with
    | none => rfl
    | some name => cases name <;> rfl

/-- With carriage returns the first banner gives the product, whether it has a name or not. -/
theorem productName?_withCarriageReturns {s : Bytes} (h : carriageReturn ∉ s) :
    productName? (withCarriageReturns s) = (bannerLines s).head?.map nameBeforeReturn := by
  induction s with
  | nil => rfl
  | cons b s ih =>
    have hrest : carriageReturn ∉ s := fun hmem => h (List.mem_cons_of_mem _ hmem)
    have hfirst := bannerName?_withCarriageReturns h
    by_cases hb : b = newline
    · -- no banner begins at a line ending
      subst hb
      have hnone : bannerLine? (newline :: s) = none := by
        have hdrop : Bytes.dropPrefix? (bytes "/*!\n * ") (newline :: s) = none := rfl
        rw [bannerLine?, hdrop, Option.bind_none]
      rw [withCarriageReturns_newline_cons, productName?, bannerName?_cons_of_ne (by decide),
        productName?, bannerName?_cons_of_ne (by decide), bannerLines, hnone]
      exact ih hrest
    · rw [withCarriageReturns_cons_of_ne hb] at hfirst ⊢
      rw [productName?, hfirst, ih hrest, bannerLines]
      cases bannerLine? (b :: s) with
      | none => rfl
      | some name => rfl

/-! ## §5 The product of a list of scripts -/

namespace Session

variable (s : Session)

/-- The lines of a script leave the product alone. -/
theorem readLines_product (source : Bytes) (ls : List BlockLine) :
    (readLines source ls s).1.tree.product = s.tree.product := by
  have hnamed : s.named s.tree.product = s := rfl
  have hread := s.readLines_named s.tree.product source ls
  rw [hnamed] at hread
  rw [hread]
  rfl

theorem readBanner_product (text : Bytes) :
    (s.readBanner text).tree.product = (productName? text).getD s.tree.product := by
  unfold readBanner
  cases productName? text <;> rfl

/-- The last script with a product gives it to all. -/
theorem readScripts_product {scripts : List Script} {s s' : Session}
    (h : readScripts scripts s = (s', none)) :
    s'.tree.product =
      (scripts.reverse.findSome? fun script => productName? script.text).getD s.tree.product := by
  induction scripts generalizing s with
  | nil =>
    obtain rfl : s = s' := (Prod.mk.inj h).1
    rfl
  | cons script rest ih =>
    unfold readScripts at h
    split at h
    · next s₁ hscript =>
      have hproduct : s₁.tree.product = (productName? script.text).getD s.tree.product := by
        unfold readScript at hscript
        split at hscript
        · next s₂ hlines =>
          obtain rfl : s₂.close = s₁ := (Prod.mk.inj hscript).1
          have hread := (s.readBanner script.text).readLines_product script.name
            (blockLines script.text)
          rw [hlines, readBanner_product] at hread
          exact hread
        · simp at hscript
      rw [ih h, hproduct, List.reverse_cons, List.findSome?_append]
      -- a later script goes before this one, and this one before what there was
      cases rest.reverse.findSome? fun script => productName? script.text with
      | some product => rfl
      | none => cases hname : productName? script.text <;> simp [hname]
    · simp at h

end Session

theorem product_of_parseScripts {scripts : List Script} {t : Tree}
    (h : (parseScripts scripts).1 = .ok t) :
    t.product = (scripts.reverse.findSome? fun script => productName? script.text).getD [] := by
  unfold parseScripts at h
  split at h
  · simp at h
  · next s hscripts =>
    obtain rfl := Except.ok.inj h
    exact Session.readScripts_product hscripts

/-- What follows the star of the banner that decides the product when lines end in carriage returns: it
    is the first one of the last script that has any. -/
def decidingBanner? (scripts : List Script) : Option Bytes :=
  scripts.reverse.findSome? fun script => (bannerLines script.text).head?

/-- With carriage returns the deciding banner gives the product. -/
theorem findSome?_productName?_withCarriageReturns {scripts : List Script}
    (h : ∀ script ∈ scripts, carriageReturn ∉ script.text) :
    (scripts.map Script.withCarriageReturns).findSome? (fun script => productName? script.text) =
      (scripts.findSome? fun script => (bannerLines script.text).head?).map nameBeforeReturn := by
  induction scripts with
  | nil => rfl
  | cons script rest ih =>
    have hscript : productName? script.withCarriageReturns.text =
        (bannerLines script.text).head?.map nameBeforeReturn :=
      productName?_withCarriageReturns (h script List.mem_cons_self)
    have hrest := ih fun s hs => h s (List.mem_cons_of_mem _ hs)
    rw [List.map_cons, List.findSome?_cons, List.findSome?_cons, hscript, hrest]
    cases (bannerLines script.text).head? <;> rfl

/-- Without carriage returns the deciding banner gives the product if it has a name. -/
theorem findSome?_productName?_of_named {scripts : List Script}
    (h : ∀ script ∈ scripts, carriageReturn ∉ script.text)
    (hnamed : (scripts.findSome? fun script => (bannerLines script.text).head?) ≠ some []) :
    scripts.findSome? (fun script => productName? script.text) =
      scripts.findSome? fun script => (bannerLines script.text).head? := by
  induction scripts with
  | nil => rfl
  | cons script rest ih =>
    have hscript := productName?_of_notMem (h script List.mem_cons_self)
    rw [List.findSome?_cons] at hnamed
    rw [List.findSome?_cons, List.findSome?_cons, hscript]
    cases hbanners : bannerLines script.text with
    | nil =>
      rw [hbanners] at hnamed
      exact ih (fun s hs => h s (List.mem_cons_of_mem _ hs)) hnamed
    | cons name more =>
      have hname : name ≠ [] := by
        rintro rfl
        rw [hbanners] at hnamed
        exact hnamed rfl
      simp [hname]

section Products

variable {scripts : List Script} {t : Tree} (h : ∀ script ∈ scripts, carriageReturn ∉ script.text)
include h

theorem product_withCarriageReturns
    (ht : (parseScripts (scripts.map Script.withCarriageReturns)).1 = .ok t) :
    t.product = ((decidingBanner? scripts).map nameBeforeReturn).getD [] := by
  have hproduct := product_of_parseScripts ht
  rw [← List.map_reverse, findSome?_productName?_withCarriageReturns] at hproduct
  · exact hproduct
  · exact fun script hmem => h script (List.mem_reverse.1 hmem)

theorem product_of_named (hnamed : decidingBanner? scripts ≠ some [])
    (ht : (parseScripts scripts).1 = .ok t) : t.product = (decidingBanner? scripts).getD [] := by
  rw [product_of_parseScripts ht, findSome?_productName?_of_named _ hnamed]
  · rfl
  · exact fun script hmem => h script (List.mem_reverse.1 hmem)

/-- Without carriage returns in the scripts there is none in the product. -/
theorem carriageReturn_notMem_product (ht : (parseScripts scripts).1 = .ok t) :
    carriageReturn ∉ t.product := by
  rw [product_of_parseScripts ht]
  cases hfind : scripts.reverse.findSome? fun script => productName? script.text with
  | none => simp
  | some product =>
    obtain ⟨script, hmem, hproduct⟩ := List.exists_of_findSome?_eq_some hfind
    have htext := h script (List.mem_reverse.1 hmem)
    rw [productName?_of_notMem htext] at hproduct
    have hpart := infix_of_mem_bannerLines (List.mem_of_find?_eq_some hproduct)
    exact fun hreturn => htext (hpart.subset hreturn)

end Products

/-! ## §6 Both line endings -/

/-- **Line endings do not matter unless the deciding banner is nameless.**  When every newline of some
    scripts without carriage returns is given one, the same records are made, and the first unreadable
    declaration is the same or else the tree is, with every line number and every text.  Only the product
    may differ, and it does just when the first banner of the last script that has any is an empty line:
    then the product is a carriage return. -/
theorem line_endings_ignored_unless_nameless (scripts : List Script)
    (h : ∀ script ∈ scripts, carriageReturn ∉ script.text) :
    (parseScripts (scripts.map Script.withCarriageReturns)).2 = (parseScripts scripts).2 ∧
      (parseScripts (scripts.map Script.withCarriageReturns)).1 =
        (parseScripts scripts).1.map (fun t =>
          if decidingBanner? scripts = some [] then { t with product := [carriageReturn] } else t) ∧
      ((parseScripts (scripts.map Script.withCarriageReturns)).1 = (parseScripts scripts).1 ↔
        (∃ e, (parseScripts scripts).1 = .error e) ∨ decidingBanner? scripts ≠ some []) := by
  have hblocks : List.Forall₂ Script.SameBlocks scripts (scripts.map Script.withCarriageReturns) := by
    rw [List.forall₂_map_right_iff, List.forall₂_same]
    exact fun script _ => script.sameBlocks_withCarriageReturns
  obtain ⟨product, htree, hrecords⟩ := parseScripts_sameBlocks hblocks
  refine ⟨hrecords, ?_⟩
  cases hparse : (parseScripts scripts).1 with
  | error e =>
    rw [hparse] at htree
    exact ⟨htree, iff_of_true htree (Or.inl ⟨e, rfl⟩)⟩
  | ok t =>
    rw [hparse] at htree
    have hproduct : product = ((decidingBanner? scripts).map nameBeforeReturn).getD [] :=
      product_withCarriageReturns h htree
    by_cases hnameless : decidingBanner? scripts = some []
    · -- a product that is a carriage return cannot come from the scripts as they were
      obtain rfl : product = [carriageReturn] := by rw [hproduct, hnameless]; rfl
      simp only [if_pos hnameless]
      refine ⟨htree, iff_of_false (fun heq => ?_) (by simp [hnameless])⟩
      have hsame := congrArg Tree.product (Except.ok.inj (htree.symm.trans heq))
      exact carriageReturn_notMem_product h hparse (hsame ▸ List.mem_singleton.2 rfl)
    · obtain rfl : product = t.product := by
        rw [product_of_named h hnameless hparse, hproduct]
        cases hbanner : decidingBanner? scripts with
        | none => rfl
        | some name =>
          have hname : name ≠ [] := fun hnil => hnameless (hnil ▸ hbanner)
          simp [nameBeforeReturn, hname]
      simp only [Except.map, if_neg hnameless]
      exact ⟨htree, iff_of_true htree (Or.inr hnameless)⟩

/-- A nameless banner in the first script does not decide, so both line endings give the same tree. -/
theorem nameless_banner_overruled :
    let scripts : List Script :=
      [⟨bytes "a.js", bytes "/*!\n * \n/*?\nclass Foo\n  Some prose\n**/"⟩,
        ⟨bytes "b.js", bytes "x\n/*!\n * Lib\n/*?\nFoo.make() -> Foo"⟩]
    (∀ script ∈ scripts, carriageReturn ∉ script.text) ∧
      ∃ t, (parseScripts scripts).1 = .ok t ∧
        (parseScripts (scripts.map Script.withCarriageReturns)).1 = .ok t ∧
        t.product = bytes "Lib" ∧ (t.entity 0).text = bytes "Some prose\n\n" ∧ (t.entity 1).line = 5 := by
  intro scripts
  have hfree : ∀ script ∈ scripts, carriageReturn ∉ script.text := by decide
  have hview : (parseScripts scripts).1.toOption.map
      (fun t => (t.product, (t.entity 0).text, (t.entity 1).line)) =
        some (bytes "Lib", bytes "Some prose\n\n", 5) := by decide
  obtain ⟨t, hparse, ht⟩ := exists_tree_of_view hview
  simp only [Prod.mk.injEq] at ht
  have hsame := (line_endings_ignored_unless_nameless scripts hfree).2.2.2 (Or.inr (by decide))
  exact ⟨hfree, t, hparse, hsame.trans hparse, ht⟩

/-- Line endings do matter: the carriage return behind the star of an empty banner becomes the product. -/
theorem nameless_banner_named_by_line_ending :
    let scripts : List Script := [⟨bytes "a.js", bytes "/*!\n * \n"⟩]
    (∀ script ∈ scripts, carriageReturn ∉ script.text) ∧
      (parseScripts scripts).1.toOption.map Tree.product = some [] ∧
      (parseScripts (scripts.map Script.withCarriageReturns)).1.toOption.map Tree.product =
        some [carriageReturn] ∧
      (parseScripts (scripts.map Script.withCarriageReturns)).1 ≠ (parseScripts scripts).1 := by
  intro scripts
  have hproduct : (parseScripts scripts).1.toOption.map Tree.product = some [] := by decide
  have hproduct' : (parseScripts (scripts.map Script.withCarriageReturns)).1.toOption.map
      Tree.product = some [carriageReturn] := by decide
  refine ⟨by decide, hproduct, hproduct', fun heq => ?_⟩
  rw [heq, hproduct] at hproduct'
  exact absurd hproduct' (by decide)

end DocPages
