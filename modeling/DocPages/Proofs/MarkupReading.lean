import DocPages.Proofs.ByteText
import DocPages.Proofs.CharacterReferences
import Mathlib.Data.List.Forall2

/-!
# Reading the Tags of a Markup

A reader of tags goes through a markup byte by byte.  A `<` begins a tag and a `>` ends it; inside a
tag blanks divide words, and a double quote begins and ends the value of an attribute.  The reader
knows nothing of how the markup was made, so a bracket or a quote that slips into a text changes all
that it reads from there on.

Markup that is put together from elements and from text without brackets and quotes is read as just
those elements and texts.  The texts on either side of a part may run together, which is why reading a
part is described in front of anything that may follow and after any text that may stand before.

## Main definitions

- `Html.Mark`, `Html.readMarks`: what the reader finds
- `Html.Tag`, `Html.tags`, `Html.wellNested`: tags with the names of their attributes, and their nesting
- `Html.Spells`: written bytes that stand for a text
- `Html.Writes`: a markup put together from parts

## Main results

- `Html.Writes.readMarks_decoded`: the parts are read back, with the texts that they stand for
- `Html.Writes.tags_readMarks`: the tags are those of the parts
- `Html.Writes.wellNested_tags`: and every element is closed in its turn
-/

namespace DocPages

namespace Html

/-! ## §1 The reader -/

/-- What a reader of tags finds in a markup. -/
inductive Mark where
  | opening (name : Bytes) (attributes : List Attribute)
  | closing (name : Bytes)
  | text (content : Bytes)
  /-- A tag that the markup ends in. -/
  | unfinished
  deriving DecidableEq, Repr

/-- A run of text; an empty one is nothing. -/
def textMark (run : Bytes) : List Mark := if run.isEmpty then [] else [.text run]

/-- A word in a tag that has no value. -/
def bareWord (word : Bytes) : List Attribute := if word.isEmpty then [] else [⟨word, []⟩]

/-- The tag made of some words: its name, which begins with a slash in an end tag, and its attributes. -/
def tagMark : List Attribute → Mark
  | [] => .opening [] []
  | word :: attributes =>
    match word.name with
    | 0x2F :: name => .closing name
    | name => .opening name attributes

/-- Where a reader stands: in text, in a tag after some words, or in the value of an attribute. -/
inductive Place where
  | text (run : Bytes)
  | tag (words : List Attribute) (word : Bytes)
  | value (words : List Attribute) (key value : Bytes)
  deriving DecidableEq, Repr

namespace Place

/-- The bytes that mean something at a place. -/
def delimits : Place → UInt8 → Bool
  | text _, b => b == byte '<'
  | tag _ _, b => b == byte '>' || b == byte '"' || isSpace b
  | value _ _ _, b => b == byte '"'

/-- The place after more bytes that mean nothing there. -/
def push : Place → Bytes → Place
  | text run, x => text (run ++ x)
  | tag words word, x => tag words (word ++ x)
  | value words key v, x => value words key (v ++ x)

/-- What a delimiter completes, and where it leads. -/
def cross : Place → UInt8 → List Mark × Place
  | text run, _ => (textMark run, tag [] [])
  | tag words word, b =>
    if b = byte '>' then ([tagMark (words ++ bareWord word)], text [])
    else if b = byte '"' then ([], value words (Bytes.trimSuffix (bytes "=") word) [])
    else ([], tag (words ++ bareWord word) [])
  | value words key v, _ => ([], tag (words ++ [⟨key, v⟩]) [])

/-- What is left at the end of the markup. -/
def finish : Place → List Mark
  | text run => textMark run
  | _ => [.unfinished]

end Place

/-- What a reader finds from a place on. -/
def readFrom (p : Place) : Bytes → List Mark
  | [] => p.finish
  | b :: s => if p.delimits b then (p.cross b).1 ++ readFrom (p.cross b).2 s else readFrom (p.push [b]) s

/-- What a reader finds in a markup. -/
def readMarks (s : Bytes) : List Mark := readFrom (.text []) s

/-- An attribute with the references in its value read. -/
def Attribute.decoded (a : Attribute) : Attribute := ⟨a.name, decodeReferences true a.value⟩

/-- A mark with its character references read. -/
def Mark.decoded : Mark → Mark
  | .opening name attributes => .opening name (attributes.map Attribute.decoded)
  | .text content => .text (decodeReferences false content)
  | mark => mark

@[simp]
theorem Place.push_nil (p : Place) : p.push [] = p := by cases p <;> simp [push]

theorem Place.push_push (p : Place) (x y : Bytes) : (p.push x).push y = p.push (x ++ y) := by
  cases p <;> simp [push]

theorem Place.delimits_push (p : Place) (x : Bytes) : (p.push x).delimits = p.delimits := by
  cases p <;> rfl

theorem readFrom_pass {p : Place} {b : UInt8} (hb : p.delimits b = false) (s : Bytes) :
    readFrom p (b :: s) = readFrom (p.push [b]) s := by
  rw [readFrom, if_neg (by simp [hb])]

theorem readFrom_cross {p : Place} {b : UInt8} (hb : p.delimits b = true) (s : Bytes) :
    readFrom p (b :: s) = (p.cross b).1 ++ readFrom (p.cross b).2 s := by
  rw [readFrom, if_pos hb]

/-- Bytes that mean nothing are passed over and kept. -/
theorem readFrom_push {p : Place} {x : Bytes} (hx : ∀ b ∈ x, p.delimits b = false) (s : Bytes) :
    readFrom p (x ++ s) = readFrom (p.push x) s := by
  induction x generalizing p with
  | nil => simp
  | cons b x ih =>
    have hb := hx b List.mem_cons_self
    have hrest : ∀ c ∈ x, (p.push [b]).delimits c = false := by
      intro c hc
      rw [Place.delimits_push]
      exact hx c (List.mem_cons_of_mem b hc)
    rw [List.cons_append, readFrom_pass hb, ih hrest, Place.push_push]
    rfl

/-! ## §2 Tags and their nesting -/

/-- A tag with the names of its attributes. -/
inductive Tag where
  | opening (name : Bytes) (attributes : List Bytes)
  | closing (name : Bytes)
  | unfinished
  deriving DecidableEq, Repr

/-- The tag that a mark is. -/
def Mark.tag? : Mark → Option Tag
  | .opening name attributes => some (.opening name (attributes.map Attribute.name))
  | .closing name => some (.closing name)
  | .text _ => none
  | .unfinished => some .unfinished

/-- The tags among marks. -/
def tags (marks : List Mark) : List Tag := marks.filterMap Mark.tag?

/-- The element without content and end tag. -/
def voidName : Bytes := bytes "hr"

/-- Whether tags close the elements that are open, and those that they open, innermost first. -/
def closes : List Bytes → List Tag → Bool
  | inner, [] => inner.isEmpty
  | inner, .opening name _ :: rest => closes (if name = voidName then inner else name :: inner) rest
  | name :: inner, .closing closed :: rest => name == closed && closes inner rest
  | [], .closing _ :: _ => false
  | _, .unfinished :: _ => false

/-- Whether every element is closed in its turn. -/
def wellNested (found : List Tag) : Bool := closes [] found

@[simp]
theorem tags_nil : tags [] = [] := rfl

@[simp]
theorem tags_append (ms ns : List Mark) : tags (ms ++ ns) = tags ms ++ tags ns :=
  List.filterMap_append

@[simp]
theorem tags_text (s : Bytes) (ms : List Mark) : tags (.text s :: ms) = tags ms := rfl

/-- Lists that look alike, element by element. -/
theorem forall₂_of_map_eq {α β κ : Type} {k : α → κ} {k' : β → κ} {xs : List α} {ys : List β}
    (h : xs.map k = ys.map k') : List.Forall₂ (fun a b => k a = k' b) xs ys := by
  rwa [← List.forall₂_eq_eq_eq, List.forall₂_map_left_iff, List.forall₂_map_right_iff] at h

/-- Lists that look alike have the same tags, when the tags of an element follow from its look. -/
theorem tags_flatMap_congr {α β κ : Type} {f : α → List Mark} {g : β → List Mark} {k : α → κ}
    {k' : β → κ} {xs : List α} {ys : List β} (h : xs.map k = ys.map k')
    (hfg : ∀ a b, k a = k' b → tags (f a) = tags (g b)) :
    tags (xs.flatMap f) = tags (ys.flatMap g) := by
  induction forall₂_of_map_eq h with
  | nil => rfl
  | cons hab _ ih =>
    rw [List.flatMap_cons, List.flatMap_cons, tags_append, tags_append, hfg _ _ hab,
      ih (List.cons.inj h).2]

/-- A text between parts is no tag. -/
theorem tags_intercalate {α : Type} (u : Bytes) (g : α → List Mark) (xs : List α) :
    tags ([.text u].intercalate (xs.map g)) = tags (xs.flatMap g) := by
  induction xs with
  | nil => rfl
  | cons a xs ih =>
    cases xs with
    | nil => simp
    | cons b xs =>
      rw [List.map_cons, List.map_cons, List.intercalate_cons_cons, ← List.map_cons, tags_append,
        tags_append, ih, List.flatMap_cons, tags_append]
      simp

theorem tags_textMark (run : Bytes) : tags (textMark run) = [] := by
  unfold textMark
  split <;> rfl

/-- Reading references changes no tag. -/
theorem tags_map_decoded (ms : List Mark) : tags (ms.map Mark.decoded) = tags ms := by
  unfold tags
  rw [List.filterMap_map]
  congr 1
  funext mark
  cases mark with
  | opening name attributes => simp [Mark.decoded, Mark.tag?, Attribute.decoded, Function.comp_def]
  | closing name => rfl
  | text content => rfl
  | unfinished => rfl

/-! ## §3 Runs of text -/

/-- Marks behind a text, with adjacent texts made one and empty ones left out. -/
def joinTexts (run : Bytes) : List Mark → List Mark
  | [] => textMark run
  | .text s :: marks => joinTexts (run ++ s) marks
  | mark :: marks => textMark run ++ mark :: joinTexts [] marks

/-- A tag ends the text before it. -/
theorem joinTexts_tag {mark : Mark} (h : mark.tag?.isSome = true) (run : Bytes)
    (marks : List Mark) : joinTexts run (mark :: marks) = textMark run ++ mark :: joinTexts [] marks := by
  cases mark with
  | text s => exact absurd h Bool.false_ne_true
  | opening | closing | unfinished => rfl

theorem tags_joinTexts (run : Bytes) (marks : List Mark) :
    tags (joinTexts run marks) = tags marks := by
  induction marks generalizing run with
  | nil => exact tags_textMark run
  | cons mark marks ih =>
    cases mark with
    | text s => exact ih (run ++ s)
    | opening | closing | unfinished =>
      have hrest := ih []
      rw [joinTexts_tag rfl, tags_append, tags_textMark, List.nil_append]
      unfold tags at hrest ⊢
      rw [List.filterMap_cons, List.filterMap_cons, hrest]

/-- Written bytes stand for a text, in content and in quoted values alike: they are read as the text
    whatever follows, and no bracket and no quote is among them. -/
structure Spells (x s : Bytes) : Prop where
  decodes : ∀ (inAttribute : Bool) (rest : Bytes),
    decodeFrom inAttribute 0 (x ++ rest) = s ++ decodeFrom inAttribute 0 rest
  bracket : byte '<' ∉ x
  quote : byte '"' ∉ x
  eq_nil : s = [] → x = []

namespace Spells

variable {x y s u : Bytes}

theorem nil : Spells [] [] where
  decodes _ _ := rfl
  bracket := List.not_mem_nil
  quote := List.not_mem_nil
  eq_nil _ := rfl

theorem append (hx : Spells x s) (hy : Spells y u) : Spells (x ++ y) (s ++ u) where
  decodes inAttribute rest := by
    rw [List.append_assoc, hx.decodes, hy.decodes, List.append_assoc]
  bracket := by simpa using ⟨hx.bracket, hy.bracket⟩
  quote := by simpa using ⟨hx.quote, hy.quote⟩
  eq_nil h := by
    obtain ⟨hs, hu⟩ := List.append_eq_nil_iff.1 h
    rw [hx.eq_nil hs, hy.eq_nil hu]
    rfl

/-- Escaped text stands for the text. -/
theorem escape (s : Bytes) : Spells (escape s) s where
  decodes _ rest := decodeFrom_escape s rest
  bracket := notMem_escape s
  quote := delimiter_notMem_escape (Or.inr (Or.inr rfl)) s
  eq_nil h := by rw [h]; rfl

/-- Bytes that mean nothing to a reader. -/
def Literal (x : Bytes) : Prop := ∀ b ∈ x, b ≠ byte '&' ∧ b ≠ byte '<' ∧ b ≠ byte '"'

instance (x : Bytes) : Decidable (Literal x) := List.decidableBAll _ x

/-- Such bytes stand for themselves. -/
theorem literal (hx : Literal x) : Spells x x where
  decodes inAttribute rest := by
    induction x with
    | nil => rfl
    | cons b x ih =>
      have hb := (hx b List.mem_cons_self).1
      have hrest := ih fun c hc => hx c (List.mem_cons_of_mem b hc)
      simp [decodeFrom, hb, hrest]
  bracket h := (hx _ h).2.1 rfl
  quote h := (hx _ h).2.2 rfl
  eq_nil h := h

theorem notMem_reference {name : Bytes} (hname : name.all Bytes.isAlphanumeric = true) {b : UInt8}
    (hb : Bytes.isAlphanumeric b = false ∧ b ≠ byte '&' ∧ b ≠ byte ';') :
    b ∉ byte '&' :: (name ++ [byte ';']) := by
  have hletter : b ∉ name := by
    intro h
    have := List.all_eq_true.1 hname b h
    simp [hb.1] at this
  simp [hletter, hb.2]

/-- A named reference stands for its character. -/
theorem named {name c : Bytes} (hname : name.all Bytes.isAlphanumeric = true) (hne : name ≠ [])
    (hc : character? name = some c) (hcne : c ≠ []) : Spells (byte '&' :: (name ++ [byte ';'])) c where
  decodes _ rest := decodeFrom_named hname hne hc rest
  bracket := notMem_reference hname (by decide)
  quote := notMem_reference hname (by decide)
  eq_nil h := absurd h hcne

theorem decodeReferences_eq (h : Spells x s) (inAttribute : Bool) :
    decodeReferences inAttribute x = s := by
  simpa [decodeReferences, decodeFrom] using h.decodes inAttribute []

theorem map_textMark (h : Spells x s) : (textMark x).map Mark.decoded = textMark s := by
  by_cases hs : s = []
  · rw [hs, h.eq_nil hs]
    rfl
  · have hx : x ≠ [] := by
      intro hx
      apply hs
      rw [← h.decodeReferences_eq false, hx]
      rfl
    simp [textMark, hs, hx, Mark.decoded, h.decodeReferences_eq]

end Spells

/-! ## §4 Written elements -/

/-- An attribute as it is written in a tag. -/
def Attribute.written (a : Attribute) : Bytes :=
  byte ' ' :: (a.name ++ byte '=' :: byte '"' :: (a.value ++ [byte '"']))

/-- A start tag, with the values of its attributes as they are written. -/
def openTag (name : Bytes) (attributes : List Attribute) : Bytes :=
  byte '<' :: (name ++ attributes.flatMap Attribute.written ++ [byte '>'])

/-- An end tag. -/
def closeTag (name : Bytes) : Bytes := byte '<' :: byte '/' :: (name ++ [byte '>'])

theorem flatMap_written_append (attributes : List Attribute) (s : Bytes) :
    attributes.flatMap Attribute.written ++ s = attributes.foldr
      (fun a s => byte ' ' :: (a.name ++ byte '=' :: byte '"' :: (a.value ++ byte '"' :: s))) s := by
  induction attributes with
  | nil => rfl
  | cons a attributes ih =>
    rw [List.flatMap_cons, List.append_assoc, ih, List.foldr_cons]
    simp [Attribute.written]

/-- A start tag in front of a text, as one text. -/
theorem openTag_append (name : Bytes) (attributes : List Attribute) (s : Bytes) :
    openTag name attributes ++ s = byte '<' :: (name ++ attributes.foldr
      (fun a s => byte ' ' :: (a.name ++ byte '=' :: byte '"' :: (a.value ++ byte '"' :: s)))
        (byte '>' :: s)) := by
  simp only [openTag, List.cons_append, List.append_assoc, List.nil_append]
  rw [flatMap_written_append]

/-- A name that stands in a tag. -/
def Word (name : Bytes) : Prop := name ≠ [] ∧ name.all Bytes.isAlphanumeric = true

instance (name : Bytes) : Decidable (Word name) := inferInstanceAs (Decidable (_ ∧ _))

/-- The name of an element with content. -/
def ElementName (name : Bytes) : Prop := Word name ∧ name ≠ voidName

instance (name : Bytes) : Decidable (ElementName name) := inferInstanceAs (Decidable (_ ∧ _))

/-- A written attribute stands for one with a text as its value. -/
structure Attribute.Spells (a a' : Attribute) : Prop where
  name_eq : a.name = a'.name
  word : Word a.name
  value : Html.Spells a.value a'.value

/-- Letters and digits mean nothing inside a tag. -/
theorem Word.not_delimits {name : Bytes} (h : Word name) (words : List Attribute) (word : Bytes) :
    ∀ b ∈ name, (Place.tag words word).delimits b = false := by
  intro b hb
  have hletter := List.all_eq_true.1 h.2 b hb
  by_contra hdelimits
  simp only [Place.delimits, isSpace, Bool.not_eq_false, Bool.or_eq_true, beq_iff_eq] at hdelimits
  rcases hdelimits with (rfl | rfl) | (((rfl | rfl) | rfl) | rfl) | rfl <;>
    exact absurd hletter (by decide)

theorem Word.head_ne_slash {b : UInt8} {name : Bytes} (h : Word (b :: name)) : b ≠ 0x2F := by
  rintro rfl
  exact absurd (List.all_eq_true.1 h.2 0x2F List.mem_cons_self) (by decide)

/-- One attribute is read after the words before it. -/
theorem readFrom_attribute {a : Attribute} (hname : Word a.name) (hvalue : byte '"' ∉ a.value)
    (words : List Attribute) (word s : Bytes) :
    readFrom (.tag words word) (a.written ++ s) =
      readFrom (.tag (words ++ bareWord word ++ [a]) []) s := by
  have hequals : (Place.tag (words ++ bareWord word) []).push a.name = .tag _ a.name := rfl
  have htrim : Bytes.trimSuffix (bytes "=") (a.name ++ [byte '=']) = a.name := by
    have hdrop := Bytes.dropSuffix?_eq_some_iff.2 (rfl : a.name ++ [byte '='] = _)
    show (Bytes.dropSuffix? [byte '='] _).getD _ = _
    rw [hdrop, Option.getD_some]
  have hinside : ∀ b ∈ a.value, (Place.value (words ++ bareWord word) a.name []).delimits b = false := by
    intro b hb
    simp only [Place.delimits, beq_eq_false_iff_ne]
    rintro rfl
    exact hvalue hb
  calc readFrom (.tag words word) (a.written ++ s)
      = readFrom (.tag (words ++ bareWord word) [])
          (a.name ++ byte '=' :: byte '"' :: (a.value ++ byte '"' :: s)) := by
        simp only [Attribute.written, List.append_assoc, List.cons_append, List.nil_append]
        exact readFrom_cross rfl _
    _ = readFrom (.tag (words ++ bareWord word) (a.name ++ [byte '=']))
          (byte '"' :: (a.value ++ byte '"' :: s)) := by
        rw [readFrom_push (hname.not_delimits _ _), hequals, readFrom_pass rfl]
        rfl
    _ = readFrom (.value (words ++ bareWord word) a.name []) (a.value ++ byte '"' :: s) := by
        rw [readFrom_cross rfl]
        show readFrom (.value _ (Bytes.trimSuffix _ (a.name ++ [byte '='])) []) _ = _
        rw [htrim]
    _ = readFrom (.tag (words ++ bareWord word ++ [a]) []) s := by
        rw [readFrom_push hinside, readFrom_cross rfl]
        rfl

theorem readFrom_attributes {attributes : List Attribute}
    (h : ∀ a ∈ attributes, Word a.name ∧ byte '"' ∉ a.value) (words : List Attribute)
    (word s : Bytes) :
    readFrom (.tag words word) (attributes.flatMap Attribute.written ++ byte '>' :: s) =
      tagMark (words ++ bareWord word ++ attributes) :: readFrom (.text []) s := by
  induction attributes generalizing words word with
  | nil =>
    rw [List.flatMap_nil, List.nil_append, readFrom_cross rfl, List.append_nil]
    rfl
  | cons a attributes ih =>
    obtain ⟨hname, hvalue⟩ := h a List.mem_cons_self
    rw [List.flatMap_cons, List.append_assoc, readFrom_attribute hname hvalue,
      ih fun b hb => h b (List.mem_cons_of_mem a hb)]
    simp [bareWord]

/-- A start tag ends a text and is read with its attributes. -/
theorem readFrom_openTag {name : Bytes} (hname : Word name) {attributes : List Attribute}
    (h : ∀ a ∈ attributes, Word a.name ∧ byte '"' ∉ a.value) (run s : Bytes) :
    readFrom (.text run) (openTag name attributes ++ s) =
      textMark run ++ .opening name attributes :: readFrom (.text []) s := by
  have hmark : tagMark ([] ++ bareWord name ++ attributes) = .opening name attributes := by
    cases name with
    | nil => exact absurd rfl hname.1
    | cons b name =>
      simp only [bareWord, List.nil_append, List.isEmpty_cons, Bool.false_eq_true, if_false,
        List.singleton_append, tagMark]
      split
      · next heq => exact absurd (List.cons.inj heq).1 hname.head_ne_slash
      · rfl
  simp only [openTag, List.append_assoc, List.cons_append, List.nil_append]
  rw [readFrom_cross rfl]
  show textMark run ++ readFrom (.tag [] []) _ = _
  rw [readFrom_push (hname.not_delimits _ _)]
  show textMark run ++ readFrom (.tag [] name) _ = _
  rw [readFrom_attributes h, hmark]

/-- An end tag ends a text. -/
theorem readFrom_closeTag {name : Bytes} (hname : Word name) (run s : Bytes) :
    readFrom (.text run) (closeTag name ++ s) =
      textMark run ++ .closing name :: readFrom (.text []) s := by
  simp only [closeTag, List.append_assoc, List.cons_append, List.nil_append]
  rw [readFrom_cross rfl]
  show textMark run ++ readFrom (.tag [] []) (byte '/' :: (name ++ byte '>' :: s)) = _
  rw [readFrom_pass rfl]
  show textMark run ++ readFrom (.tag [] [byte '/']) _ = _
  rw [readFrom_push (hname.not_delimits _ _)]
  show textMark run ++ readFrom (.tag [] (byte '/' :: name)) _ = _
  rw [readFrom_cross rfl]
  rfl

theorem Attribute.Spells.intro {key value s : Bytes} (hkey : Word key) (h : Html.Spells value s) :
    Attribute.Spells ⟨key, value⟩ ⟨key, s⟩ := ⟨rfl, hkey, h⟩

theorem Attribute.Spells.decoded_eq {a a' : Attribute} (h : a.Spells a') : a.decoded = a' := by
  unfold Attribute.decoded
  rw [h.value.decodeReferences_eq, h.name_eq]

theorem map_decoded_of_spells {as as' : List Attribute} (h : List.Forall₂ Attribute.Spells as as') :
    as.map Attribute.decoded = as' := by
  induction h with
  | nil => rfl
  | cons ha _ ih => rw [List.map_cons, ha.decoded_eq, ih]

theorem forall_word_of_spells {as as' : List Attribute} (h : List.Forall₂ Attribute.Spells as as') :
    ∀ a ∈ as, Word a.name ∧ byte '"' ∉ a.value := by
  induction h with
  | nil => simp
  | cons ha _ ih =>
    intro a hmem
    rcases List.mem_cons.1 hmem with rfl | hmem
    · exact ⟨ha.word, ha.value.quote⟩
    · exact ih a hmem

/-! ## §5 Markup made of parts -/

/-- The marks of an element. -/
def element (name : Bytes) (attributes : List Attribute) (inner : List Mark) : List Mark :=
  .opening name attributes :: (inner ++ [.closing name])

@[simp]
theorem tags_element (name : Bytes) (attributes : List Attribute) (inner : List Mark) :
    tags (element name attributes inner) =
      .opening name (attributes.map Attribute.name) :: (tags inner ++ [.closing name]) := by
  simp [element, tags, Mark.tag?]

/-- A markup is put together from parts that the marks describe, with texts as they are meant. -/
inductive Writes : Bytes → List Mark → Prop
  | nil : Writes [] []
  | append {x y : Bytes} {ms ns : List Mark} : Writes x ms → Writes y ns → Writes (x ++ y) (ms ++ ns)
  | text {x s : Bytes} : Spells x s → Writes x [.text s]
  | element {name x : Bytes} {as as' : List Attribute} {ms : List Mark} : ElementName name →
      List.Forall₂ Attribute.Spells as as' → Writes x ms →
      Writes (openTag name as ++ x ++ closeTag name) (element name as' ms)
  | rule : Writes (openTag voidName []) [.opening voidName []]

/-- A text is read as marks behind every text that may stand before it. -/
def ReadsBehind (x : Bytes) (ms : List Mark) : Prop :=
  ∀ run s : Bytes, Spells run s → (readFrom (.text run) x).map Mark.decoded = joinTexts s ms

namespace Writes

variable {x y : Bytes} {ms ns : List Mark}

theorem readsBehind_nil : ReadsBehind [] [] := fun _ _ h => h.map_textMark

/-- A tag ends the text before it, and what follows is read behind no text. -/
theorem readsBehind_tag {raw : Mark} (hraw : raw.decoded.tag?.isSome = true) {tag rest : Bytes}
    (htag : ∀ run, readFrom (.text run) (tag ++ rest) = textMark run ++ raw :: readFrom (.text []) rest)
    (hrest : ReadsBehind rest ns) : ReadsBehind (tag ++ rest) (raw.decoded :: ns) := by
  intro run s h
  rw [htag, List.map_append, List.map_cons, h.map_textMark, hrest [] [] Spells.nil, joinTexts_tag hraw]

/-- Reading a part in front of anything: the invariant that carries the reading of a markup. -/
theorem readsBehind_append (h : Writes x ms) {rest : Bytes} (hrest : ReadsBehind rest ns) :
    ReadsBehind (x ++ rest) (ms ++ ns) := by
  induction h generalizing rest ns with
  | nil => exact hrest
  | append _ _ ihx ihy =>
    rw [List.append_assoc, List.append_assoc]
    exact ihx (ihy hrest)
  | @text x u hx =>
    -- the text is added to the one before it
    intro run s h
    have hplain : ∀ b ∈ x, (Place.text run).delimits b = false := by
      intro b hb
      simp only [Place.delimits, beq_eq_false_iff_ne]
      rintro rfl
      exact hx.bracket hb
    rw [readFrom_push hplain]
    exact hrest _ _ (h.append hx)
  | element hname hattributes _ ih =>
    have hclose := readsBehind_tag rfl (fun run => readFrom_closeTag hname.1 run rest) hrest
    have hopen := readsBehind_tag rfl
      (fun run => readFrom_openTag hname.1 (forall_word_of_spells hattributes) run _) (ih hclose)
    rw [Mark.decoded, map_decoded_of_spells hattributes] at hopen
    simpa [Html.element, Mark.decoded] using hopen
  | rule =>
    exact readsBehind_tag rfl (fun run => readFrom_openTag (by decide) (by simp) run rest) hrest

/-- The parts of a markup are read back, with the texts that they stand for. -/
theorem readMarks_decoded (h : Writes x ms) : (readMarks x).map Mark.decoded = joinTexts [] ms := by
  have hread := h.readsBehind_append readsBehind_nil [] [] Spells.nil
  rwa [List.append_nil, List.append_nil] at hread

theorem tags_readMarks (h : Writes x ms) : tags (readMarks x) = tags ms := by
  rw [← tags_map_decoded, h.readMarks_decoded, tags_joinTexts]

/-- The tags of a part leave the open elements as they were. -/
theorem closes_append (h : Writes x ms) (inner : List Bytes) (rest : List Tag) :
    closes inner (tags ms ++ rest) = closes inner rest := by
  induction h generalizing inner rest with
  | nil => rfl
  | append _ _ ihx ihy => rw [tags_append, List.append_assoc, ihx, ihy]
  | text _ => rfl
  | element hname _ _ ih =>
    simp only [tags_element, List.cons_append, List.append_assoc, List.nil_append, closes,
      if_neg hname.2]
    rw [ih]
    simp [closes]
  | rule => rfl

/-- Every element of a markup is closed in its turn. -/
theorem wellNested_tags (h : Writes x ms) : wellNested (tags (readMarks x)) = true := by
  have hcloses := h.closes_append [] []
  rw [List.append_nil] at hcloses
  rw [h.tags_readMarks, wellNested, hcloses]
  rfl

theorem of_eq (h : Writes x ms) (hx : y = x) : Writes y ms := hx ▸ h

/-- An element without attributes. -/
theorem bare {name : Bytes} (hname : ElementName name) (h : Writes x ms) :
    Writes (openTag name [] ++ x ++ closeTag name) (Html.element name [] ms) := element hname .nil h

/-- An element whose only attribute is its class. -/
theorem classed {name value s : Bytes} (hname : ElementName name) (hvalue : Spells value s)
    (h : Writes x ms) : Writes (openTag name [⟨bytes "class", value⟩] ++ x ++ closeTag name)
      (Html.element name [⟨bytes "class", s⟩] ms) :=
  element hname (.cons (.intro (by decide) hvalue) .nil) h

variable {α : Type} {f : α → Bytes} {g : α → List Mark} {xs : List α}

theorem flatMap (h : ∀ a ∈ xs, Writes (f a) (g a)) : Writes (xs.flatMap f) (xs.flatMap g) := by
  induction xs with
  | nil => exact nil
  | cons a xs ih =>
    rw [List.flatMap_cons, List.flatMap_cons]
    exact (h a List.mem_cons_self).append (ih fun b hb => h b (List.mem_cons_of_mem a hb))

theorem join {sep u : Bytes} (hsep : Spells sep u) (h : ∀ a ∈ xs, Writes (f a) (g a)) :
    Writes (Bytes.join sep (xs.map f)) ([.text u].intercalate (xs.map g)) := by
  induction xs with
  | nil => exact nil
  | cons a xs ih =>
    have ha := h a List.mem_cons_self
    have hrest := ih fun b hb => h b (List.mem_cons_of_mem a hb)
    cases xs with
    | nil => simpa [Bytes.join] using ha
    | cons b xs =>
      simp only [List.map_cons, List.intercalate_cons_cons, Bytes.join] at hrest ⊢
      exact (ha.append (text hsep)).append hrest

end Writes

end Html

end DocPages
