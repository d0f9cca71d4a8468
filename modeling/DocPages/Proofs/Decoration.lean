import DocPages.Proofs.ByteText
import DocPages.Proofs.MalformedDeclarations
import DocPages.Proofs.Trimming

/-!
# What Counts as Decoration

The lines of a documentation block are drawn with a star and spaces in front, and the last one with
stars and a slash at its end.  Three cuts take this off, one after the other: a star with up to two
spaces, the marker that opens a block, and the end of the comment.  On short lines the markers share
bytes, so a cut in front could reach into the end, or leave a part of it.  It does neither: the cuts in
front end in a byte that the end of a comment does not have, or take one of at least two stars.

## Main results

- `Bare`, `stripDecoration_of_bare`: texts without decoration are kept
- `stripDecoration_star`: a star takes up to two of the spaces behind it along
- `suffix_stripFront`: the cuts in front leave the end of the comment
- `BeforeTerminator`, `stripDecoration_beforeTerminator`: what is left of a line that ends a block
- `decoration_removed_exactly`
-/

namespace DocPages

/-! ## §1 Texts without decoration -/

/-- A trimmed text that no cut applies to. -/
structure Bare (text : Bytes) : Prop where
  trimmed : trim text = text
  noStar : ¬bytes "*" <+: text
  noBegin : ¬blockBegin <+: text
  noEnd : ¬bytes "*/" <:+ text

theorem stripStar_of_not_prefix {line : Bytes} (h : ¬bytes "*" <+: line) : stripStar line = line := by
  unfold stripStar
  cases hdrop : Bytes.dropPrefix? (bytes "*") line with
  | none => rfl
  | some rest => exact absurd ⟨rest, (Bytes.dropPrefix?_eq_some_iff.1 hdrop).symm⟩ h

theorem stripEnd_of_not_suffix {line : Bytes} (h : ¬bytes "*/" <:+ line) : stripEnd line = line := by
  unfold stripEnd
  cases hdrop : Bytes.dropSuffix? (bytes "*/") line with
  | none => rfl
  | some rest => exact absurd ⟨rest, (Bytes.dropSuffix?_eq_some_iff.1 hdrop).symm⟩ h

theorem stripDecoration_of_bare {text : Bytes} (h : Bare text) : stripDecoration text = text := by
  rw [stripDecoration, stripStar_of_not_prefix h.noStar, Bytes.trimPrefix_of_not_prefix h.noBegin,
    stripEnd_of_not_suffix h.noEnd]

/-! ## §2 A star and spaces -/

/-- So many spaces. -/
def spaces (k : Nat) : Bytes := List.replicate k (byte ' ')

theorem spaces_succ (k : Nat) : spaces (k + 1) = byte ' ' :: spaces k := rfl

theorem allBlank_spaces (k : Nat) : AllBlank (spaces k) := by
  induction k with
  | zero => exact allBlank_nil
  | succ k ih =>
    intro r hr
    rw [spaces_succ, runes_cons (by decide)] at hr
    rcases List.mem_cons.1 hr with rfl | hr
    · exact isBlank_space
    · exact ih r hr

/-- One of the spaces in front is taken off. -/
theorem trimPrefix_spaces {text : Bytes} (h : ¬bytes " " <+: text) (k : Nat) :
    Bytes.trimPrefix (bytes " ") (spaces k ++ text) = spaces (k - 1) ++ text := by
  cases k with
  | zero => exact Bytes.trimPrefix_of_not_prefix h
  | succ k => exact Bytes.trimPrefix_append (bytes " ") (spaces k ++ text)

theorem stripStar_star {text : Bytes} (h : ¬bytes " " <+: text) (k : Nat) :
    stripStar (byte '*' :: (spaces k ++ text)) = spaces (k - 2) ++ text := by
  have hdrop : Bytes.dropPrefix? (bytes "*") (byte '*' :: (spaces k ++ text)) =
      some (spaces k ++ text) := Bytes.dropPrefix?_eq_some_iff.2 rfl
  rw [stripStar, hdrop]
  show Bytes.trimPrefix (bytes " ") (Bytes.trimPrefix (bytes " ") (spaces k ++ text)) = _
  rw [trimPrefix_spaces h, trimPrefix_spaces h, Nat.sub_sub]

section Bare

variable {text : Bytes} (h : Bare text)

include h

theorem Bare.not_space_prefix : ¬bytes " " <+: text := by
  rintro ⟨rest, rfl⟩
  exact trim_space_cons_ne rest h.trimmed

theorem Bare.not_begin_prefix_spaces (k : Nat) : ¬blockBegin <+: spaces k ++ text := by
  cases k with
  | zero => exact h.noBegin
  | succ k =>
    rintro ⟨rest, hrest⟩
    have hfirst : byte '/' = byte ' ' := (List.cons.inj hrest).1
    exact absurd hfirst (by decide)

/-- Spaces in front of a text do not complete an end of a comment. -/
theorem Bare.not_end_suffix_spaces (hne : text ≠ []) (k : Nat) :
    ¬bytes "*/" <:+ spaces k ++ text := by
  intro hend
  rcases List.suffix_or_suffix_of_suffix hend (List.suffix_append (spaces k) text) with hin | hout
  · exact h.noEnd hin
  · -- the text is a part of the end, so it is the slash, and the star is one of the spaces
    have hslash : text = bytes "/" := by
      have hparts : text = bytes "*/" ∨ text = bytes "/" ∨ text = [] := by
        rcases List.suffix_cons_iff.1 hout with hall | hout
        · exact Or.inl hall
        · rcases List.suffix_cons_iff.1 hout with hslash | hnil
          · exact Or.inr (Or.inl hslash)
          · exact Or.inr (Or.inr (List.suffix_nil.1 hnil))
      rcases hparts with rfl | hslash | hnil
      · exact absurd (List.suffix_refl _) h.noEnd
      · exact hslash
      · exact absurd hnil hne
    obtain ⟨front, hfront⟩ := hend
    rw [hslash] at hfront
    have hstar : front ++ bytes "*" = spaces k := by
      apply (List.append_left_inj (bytes "/")).1
      rw [← hfront, List.append_assoc]
      rfl
    have hmem : byte '*' ∈ spaces k := by
      rw [← hstar]
      exact List.mem_append_right _ (List.mem_singleton.2 rfl)
    exact absurd (List.eq_of_mem_replicate hmem) (by decide)

/-- A star in front takes up to two spaces along and leaves the others. -/
theorem stripDecoration_star (hne : text ≠ []) (k : Nat) :
    stripDecoration (byte '*' :: (spaces k ++ text)) = spaces (k - 2) ++ text := by
  rw [stripDecoration, stripStar_star h.not_space_prefix,
    Bytes.trimPrefix_of_not_prefix (h.not_begin_prefix_spaces _),
    stripEnd_of_not_suffix (h.not_end_suffix_spaces hne _)]

/-- A line that a star starts and a text ends is trimmed. -/
theorem Bare.trim_star (hne : text ≠ []) (k : Nat) :
    trim (byte '*' :: (spaces k ++ text)) = byte '*' :: (spaces k ++ text) := by
  rw [trim_eq_self_iff, runes_cons (by decide), (allBlank_spaces k).runes_append]
  constructor
  · intro r hr
    obtain rfl : asciiRune (byte '*') = r := by simpa using hr
    decide
  · intro r hr
    apply (trim_eq_self_iff.1 h.trimmed).2 r
    obtain ⟨r', rs, hrs⟩ := List.exists_cons_of_ne_nil (runes_ne_nil hne)
    rw [hrs] at hr ⊢
    simpa [List.getLast?_cons, List.getLast?_append] using hr

end Bare

/-! ## §3 The end of a comment -/

/-- What a star in front leaves is an end of the line. -/
theorem stripStar_suffix (line : Bytes) : stripStar line <:+ line := by
  unfold stripStar
  cases hdrop : Bytes.dropPrefix? (bytes "*") line with
  | none => exact List.suffix_refl _
  | some rest =>
    have hrest : rest <:+ line := ⟨bytes "*", (Bytes.dropPrefix?_eq_some_iff.1 hdrop).symm⟩
    exact (Bytes.trimPrefix_suffix _ _).trans ((Bytes.trimPrefix_suffix _ _).trans hrest)

/-- A line that ends a block has two stars before its slash, and one in front takes only one of them
    away. -/
theorem suffix_stripStar {line : Bytes} (h : blockEnd <:+ line) : bytes "*/" <:+ stripStar line := by
  have htail : bytes "*/" <:+ blockEnd := ⟨bytes "*", rfl⟩
  unfold stripStar
  cases hdrop : Bytes.dropPrefix? (bytes "*") line with
  | none => exact htail.trans h
  | some rest =>
    rw [Bytes.dropPrefix?_eq_some_iff.1 hdrop] at h
    have hrest : bytes "*/" <:+ rest := by
      rcases List.suffix_cons_iff.1 h with hall | hin
      · exact ⟨[], (List.cons.inj hall).2⟩
      · exact htail.trans hin
    apply Bytes.suffix_trimPrefix (p := []) (by decide)
    exact Bytes.suffix_trimPrefix (p := []) (by decide) hrest

/-- The cuts in front leave the end of the comment. -/
theorem suffix_stripFront {line : Bytes} (h : blockEnd <:+ line) :
    bytes "*/" <:+ Bytes.trimPrefix blockBegin (stripStar line) :=
  Bytes.suffix_trimPrefix (p := bytes "/*") (by decide) (suffix_stripStar h)

theorem getLast?_rdropWhile_ne (s : Bytes) (b : UInt8) :
    (s.rdropWhile (· == b)).getLast? ≠ some b := by
  intro hlast
  obtain ⟨more, hmore⟩ := List.getLast?_eq_some_iff.1 hlast
  have hne : s.rdropWhile (· == b) ≠ [] := by simp [hmore]
  apply List.rdropWhile_last_not (· == b) s hne
  simp [hmore]

/-- The text is a part of the line in front of the run of stars and the slash that end it. -/
def BeforeTerminator (line text : Bytes) : Prop :=
  ∃ before stars, line = before ++ text ++ stars ++ bytes "/" ∧ (∀ b ∈ stars, b = byte '*') ∧
    (before ++ text).getLast? ≠ some (byte '*')

/-- A text before some of the stars is before the whole run of them, unless it ends in a star. -/
theorem beforeTerminator_of_stars {before text stars : Bytes} (hstars : ∀ b ∈ stars, b = byte '*')
    (htext : text.getLast? ≠ some (byte '*')) :
    BeforeTerminator (before ++ text ++ stars ++ bytes "/") text := by
  by_cases hne : text = []
  · -- an empty text has its place in front of all stars, those before it included
    subst hne
    refine ⟨before.rdropWhile (· == byte '*'), before.rtakeWhile (· == byte '*') ++ stars, ?_, ?_, ?_⟩
    · simp [← List.append_assoc, List.rdropWhile_append_rtakeWhile]
    · intro b hb
      rcases List.mem_append.1 hb with hb | hb
      · simpa using List.mem_rtakeWhile_imp hb
      · exact hstars b hb
    · rw [List.append_nil]
      exact getLast?_rdropWhile_ne before (byte '*')
  · refine ⟨before, stars, rfl, hstars, ?_⟩
    rwa [List.getLast?_append_of_ne_nil _ hne]

/-- What is left of a line that ends a block does not end in a star and is before the stars that end
    the line. -/
theorem stripDecoration_beforeTerminator {line : Bytes} (h : blockEnd <:+ line) :
    BeforeTerminator line (stripDecoration line) ∧
      (stripDecoration line).getLast? ≠ some (byte '*') := by
  obtain ⟨before, hbefore⟩ : Bytes.trimPrefix blockBegin (stripStar line) <:+ line :=
    (Bytes.trimPrefix_suffix _ _).trans (stripStar_suffix line)
  obtain ⟨rest, hrest⟩ := suffix_stripFront h
  have htext : stripDecoration line = rest.rdropWhile (· == byte '*') := by
    rw [stripDecoration, stripEnd, Bytes.dropSuffix?_eq_some_iff.2 hrest.symm]
    rfl
  have hstop := getLast?_rdropWhile_ne rest (byte '*')
  -- the line is what was cut in front, the text, the stars behind it and the end of the comment
  have hline : line = before ++ rest.rdropWhile (· == byte '*') ++
      (rest.rtakeWhile (· == byte '*') ++ bytes "*") ++ bytes "/" := by
    have hcut : rest.rdropWhile (· == byte '*') ++ rest.rtakeWhile (· == byte '*') = rest :=
      List.rdropWhile_append_rtakeWhile
    calc line = before ++ (rest ++ bytes "*/") := by rw [hrest, hbefore]
      _ = before ++ (rest.rdropWhile (· == byte '*') ++ rest.rtakeWhile (· == byte '*') ++
            (bytes "*" ++ bytes "/")) := by rw [hcut]; rfl
      _ = _ := by simp only [List.append_assoc]
  have hstars : ∀ b ∈ rest.rtakeWhile (· == byte '*') ++ bytes "*", b = byte '*' := by
    intro b hb
    rcases List.mem_append.1 hb with hb | hb
    · simpa using List.mem_rtakeWhile_imp hb
    · exact List.mem_singleton.1 hb
  rw [htext]
  refine ⟨?_, hstop⟩
  rw [hline]
  exact beforeTerminator_of_stars hstars hstop

/-! ## §4 Lines of a block -/

/-- **Decoration is removed exactly.**  However a line is indented and whatever blanks end it, a star in
    front of a text is taken off with up to two of the spaces behind it, and a text without decoration
    is kept as it is.  Of a line that ends a block a part is left that does not end in a star and lies
    before the run of stars and the slash at the end of the line, so the last line of a block puts
    nothing of its end into a description. -/
theorem decoration_removed_exactly :
    (∀ text indent trailing, Bare text → AllBlank indent → AllBlank trailing →
      (∀ k, text ≠ [] →
        stripDecoration (trim (indent ++ byte '*' :: (spaces k ++ text) ++ trailing)) =
          spaces (k - 2) ++ text) ∧
      stripDecoration (trim (indent ++ text ++ trailing)) = text) ∧
    (∀ line, blockEnd <:+ line →
      BeforeTerminator line (stripDecoration line) ∧
        (stripDecoration line).getLast? ≠ some (byte '*')) ∧
    (∀ source, ∀ l ∈ blockLines source, l.closing = true →
      l.text.getLast? ≠ some (byte '*') ∧
        ∃ raw, (textLines source)[l.number - 1]? = some raw ∧ BeforeTerminator (trim raw) l.text) := by
  refine ⟨?_, fun line => stripDecoration_beforeTerminator, ?_⟩
  · intro text indent trailing hbare hindent htrailing
    constructor
    · intro k hne
      rw [trim_pad _ hindent htrailing, hbare.trim_star hne, stripDecoration_star hbare hne]
    · rw [trim_pad _ hindent htrailing, hbare.trimmed, stripDecoration_of_bare hbare]
  · intro source l hl hclosing
    obtain ⟨i, raw, hraw, -, rfl⟩ := mem_blockLinesFrom_iff.1 hl
    have hend : blockEnd <:+ trim raw := List.isSuffixOf_iff_suffix.1 hclosing
    obtain ⟨hbefore, hstop⟩ := stripDecoration_beforeTerminator hend
    refine ⟨hstop, raw, ?_, hbefore⟩
    rw [Nat.add_sub_cancel_left]
    exact hraw

/-- A wide blank in front, a text that ends inside a character, and a line whose star in front is one
    of those that end the block. -/
theorem decoration_of_short_lines :
    let text := bytes "/* a" ++ [0xC3]
    let indent : Bytes := [0xE3, 0x80, 0x80]
    let trailing : Bytes := [0xC2, 0xA0, 0x0D]
    (Bare text ∧ AllBlank indent ∧ AllBlank trailing) ∧
      stripDecoration (trim (indent ++ byte '*' :: (spaces 3 ++ text) ++ trailing)) = spaces 1 ++ text ∧
      blockEnd <:+ bytes "**/" ∧ BeforeTerminator (bytes "**/") (stripDecoration (bytes "**/")) := by
  intro text indent trailing
  have hbare : Bare text := ⟨by decide, by decide, by decide, by decide⟩
  have hindent : AllBlank indent := by unfold AllBlank; decide
  have htrailing : AllBlank trailing := by unfold AllBlank; decide
  have hend : blockEnd <:+ bytes "**/" := List.suffix_refl _
  obtain ⟨hlines, hends, -⟩ := decoration_removed_exactly
  exact ⟨⟨hbare, hindent, htrailing⟩,
    (hlines text indent trailing hbare hindent htrailing).1 3 (by decide), hend, (hends _ hend).1⟩

end DocPages
