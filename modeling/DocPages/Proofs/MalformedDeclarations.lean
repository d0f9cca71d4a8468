import DocPages.Proofs.OutsideBlocks

/-!
# The First Malformed Declaration

A line inside a block that has the shape of a declaration or of a note, but arguments or types that
cannot be read, ends the reading.  Which line that is can be told from the texts of the scripts alone:
it is the first one, in the order of the scripts and of their lines, that stands inside a block and is
malformed.  The tree that has grown so far plays no part.

## Main results

- `Script.Reports`, `MalformedAt`: a malformed line, said of the texts and not of the reader
- `mem_blockLinesFrom_iff`, `blockLinesFrom_sorted`: the block lines are the lines inside blocks, in order
- `Session.readLines_error`, `Session.readScripts_error`: the error does not depend on the state
- `parse_fails_at_first_malformed`: reading fails exactly on the first malformed line and reports it
-/

namespace DocPages

/-! ## §1 Malformed lines -/

/-- `e` reports the line at position `i` of a script: it lies inside a block, and trimmed and without its
    decoration it cannot be read.  Lines are numbered from one. -/
structure Script.Reports (script : Script) (i : Nat) (e : SyntaxError) : Prop where
  inBlock : InBlock (textLines script.text) i
  source : e.source = script.name
  number : e.line = i + 1
  text : (textLines script.text)[i]?.map (fun raw => stripDecoration (trim raw)) = some e.text
  malformed : Line.classify e.text = .error e.cause

/-- `e` reports the line at position `i` of the script at position `p`. -/
def MalformedAt (scripts : List Script) (p i : Nat) (e : SyntaxError) : Prop :=
  ∃ script, scripts[p]? = some script ∧ script.Reports i e

/-- A line has one report. -/
theorem Script.Reports.unique {script : Script} {i : Nat} {e e' : SyntaxError}
    (h : script.Reports i e) (h' : script.Reports i e') : e = e' := by
  have htext : e.text = e'.text := Option.some.inj (h.text.symm.trans h'.text)
  have hcause : e.cause = e'.cause := by
    apply Except.error.inj
    rw [← h.malformed, ← h'.malformed, htext]
  have hsource : e.source = e'.source := h.source.trans h'.source.symm
  have hline : e.line = e'.line := h.number.trans h'.number.symm
  cases e
  cases e'
  simp_all

theorem MalformedAt.unique {scripts : List Script} {p i : Nat} {e e' : SyntaxError}
    (h : MalformedAt scripts p i e) (h' : MalformedAt scripts p i e') : e = e' := by
  obtain ⟨script, hscript, hreports⟩ := h
  obtain ⟨script', hscript', hreports'⟩ := h'
  obtain rfl : script = script' := Option.some.inj (hscript.symm.trans hscript')
  exact hreports.unique hreports'

/-- The wording of every report names the place and a malformed signature. -/
theorem SyntaxError.message_malformed (e : SyntaxError) :
    ∃ detail, e.message =
      e.source ++ bytes ":" ++ Bytes.decimalNat e.line ++ bytes ": malformed signature: " ++ detail := by
  obtain ⟨detail, hdetail⟩ := e.cause.message_eq
  have hwords : bytes ": malformed signature: " = bytes ": " ++ bytes "malformed signature: " := rfl
  refine ⟨detail ++ bytes " in " ++ quote e.text, ?_⟩
  rw [SyntaxError.message, hdetail, hwords]
  simp only [List.append_assoc]

/-! ## §2 The lines inside blocks -/

/-- The block lines are the lines inside blocks, each with its number. -/
theorem mem_blockLinesFrom_iff {inside : Bool} {number : Nat} {lines : List Bytes} {l : BlockLine} :
    l ∈ blockLinesFrom inside number lines ↔
      ∃ i raw, lines[i]? = some raw ∧ InBlockFrom inside lines i ∧
        l = ⟨number + i, stripDecoration (trim raw), closesBlock raw⟩ := by
  induction lines generalizing inside number with
  | nil => simp [blockLinesFrom]
  | cons first rest ih =>
    rw [blockLinesFrom_cons, List.mem_append, ih]
    constructor
    · rintro (hl | ⟨i, raw, hraw, hinside, rfl⟩)
      · split at hl
        · next hopen =>
          refine ⟨0, first, rfl, inBlockFrom_zero.2 hopen, ?_⟩
          exact List.mem_singleton.1 hl
        · simp at hl
      · refine ⟨i + 1, raw, hraw, inBlockFrom_succ.2 hinside, ?_⟩
        rw [Nat.add_assoc, Nat.add_comm 1 i]
    · rintro ⟨i, raw, hraw, hinside, rfl⟩
      cases i with
      | zero =>
        obtain rfl : first = raw := Option.some.inj hraw
        left
        rw [if_pos (inBlockFrom_zero.1 hinside)]
        exact List.mem_singleton.2 rfl
      | succ i =>
        refine Or.inr ⟨i, raw, hraw, inBlockFrom_succ.1 hinside, ?_⟩
        rw [Nat.add_assoc, Nat.add_comm 1 i]

/-- The block lines stand in the order of their numbers. -/
theorem blockLinesFrom_sorted (inside : Bool) (number : Nat) (lines : List Bytes) :
    (blockLinesFrom inside number lines).Pairwise fun l l' => l.number < l'.number := by
  induction lines generalizing inside number with
  | nil => exact List.Pairwise.nil
  | cons first rest ih =>
    rw [blockLinesFrom_cons, List.pairwise_append]
    refine ⟨?_, ih _ _, ?_⟩
    · split <;> simp
    · intro l hl l' hl'
      -- a later line has a number above that of the first one
      obtain ⟨i, raw, -, -, rfl⟩ := mem_blockLinesFrom_iff.1 hl'
      split at hl
      · obtain rfl := List.mem_singleton.1 hl
        show number < number + 1 + i
        omega
      · simp at hl

/-! ## §3 The error of a reading -/

/-- The report of a block line, when the line is malformed. -/
def BlockLine.report? (source : Bytes) (l : BlockLine) : Option SyntaxError :=
  match Line.classify l.text with
  | .error cause => some ⟨source, l.number, l.text, cause⟩
  | .ok _ => none

theorem BlockLine.report?_eq_some_iff {source : Bytes} {l : BlockLine} {e : SyntaxError} :
    l.report? source = some e ↔
      e.source = source ∧ e.line = l.number ∧ e.text = l.text ∧
        Line.classify e.text = .error e.cause := by
  unfold BlockLine.report?
  cases e with
  | mk source' line text cause =>
    constructor
    · intro h
      split at h
      · next hclassify =>
        obtain ⟨rfl, rfl, rfl, rfl⟩ := SyntaxError.mk.inj (Option.some.inj h)
        exact ⟨rfl, rfl, rfl, hclassify⟩
      · simp at h
    · rintro ⟨rfl, rfl, rfl, hclassify⟩
      dsimp only at hclassify
      rw [hclassify]

/-- The reports of a script are those of its malformed lines inside blocks. -/
theorem Script.reports_iff {script : Script} {i : Nat} {e : SyntaxError} :
    script.Reports i e ↔
      e.line = i + 1 ∧ ∃ l ∈ blockLines script.text, l.number = i + 1 ∧
        l.report? script.name = some e := by
  unfold blockLines
  constructor
  · intro h
    obtain ⟨raw, hraw, htext⟩ := Option.map_eq_some_iff.1 h.text
    refine ⟨h.number, ⟨1 + i, stripDecoration (trim raw), closesBlock raw⟩, ?_, ?_, ?_⟩
    · exact mem_blockLinesFrom_iff.2 ⟨i, raw, hraw, inBlockFrom_false.2 h.inBlock, rfl⟩
    · exact Nat.add_comm 1 i
    · apply BlockLine.report?_eq_some_iff.2
      exact ⟨h.source, h.number.trans (Nat.add_comm i 1), htext.symm, h.malformed⟩
  · rintro ⟨hline, l, hl, hnumber, hreport⟩
    obtain ⟨j, raw, hraw, hinside, rfl⟩ := mem_blockLinesFrom_iff.1 hl
    obtain rfl : j = i := by
      dsimp only at hnumber
      omega
    obtain ⟨hsource, -, htext, hmalformed⟩ := BlockLine.report?_eq_some_iff.1 hreport
    refine ⟨inBlockFrom_false.1 hinside, hsource, hline, ?_, hmalformed⟩
    rw [htext]
    exact Option.map_eq_some_iff.2 ⟨raw, hraw, rfl⟩

namespace Session

/-- The error of reading block lines is the first report, whatever has been read before. -/
theorem readLines_error (source : Bytes) (ls : List BlockLine) (s : Session) :
    (readLines source ls s).2 = ls.findSome? (BlockLine.report? source) := by
  induction ls generalizing s with
  | nil => rfl
  | cons l rest ih =>
    rw [List.findSome?_cons, BlockLine.report?]
    unfold readLines
    cases Line.classify l.text with
    | error cause => rfl
    | ok line => exact ih _

theorem readScript_error (s : Session) (script : Script) :
    (s.readScript script).2 =
      (blockLines script.text).findSome? (BlockLine.report? script.name) := by
  rw [← readLines_error script.name _ (s.readBanner script.text)]
  unfold readScript
  rcases readLines script.name (blockLines script.text) (s.readBanner script.text) with ⟨s', _ | e⟩
  · rfl
  · rfl

/-- The error of reading scripts is the first report, whatever has been read before. -/
theorem readScripts_error (scripts : List Script) (s : Session) :
    (readScripts scripts s).2 = scripts.findSome? fun script =>
      (blockLines script.text).findSome? (BlockLine.report? script.name) := by
  induction scripts generalizing s with
  | nil => rfl
  | cons script rest ih =>
    have hscript := s.readScript_error script
    rw [List.findSome?_cons, ← hscript]
    unfold readScripts
    rcases s.readScript script with ⟨s', _ | e⟩
    · exact ih s'
    · rfl

end Session

/-- Parsing fails with the error of reading the scripts. -/
theorem parseScripts_eq_error_iff {scripts : List Script} {e : SyntaxError} :
    (parseScripts scripts).1 = .error e ↔
      (Session.readScripts scripts .start).2 = some e := by
  unfold parseScripts
  rcases Session.readScripts scripts .start with ⟨s, _ | e'⟩
  · simp
  · simp

/-! ## §4 The first report -/

/-- The first report of a script is that of its first malformed line. -/
theorem Script.exists_first_report {script : Script} {e : SyntaxError}
    (h : (blockLines script.text).findSome? (BlockLine.report? script.name) = some e) :
    ∃ i, script.Reports i e ∧ ∀ i' e', script.Reports i' e' → i ≤ i' := by
  obtain ⟨before, l, after, hlines, hreport, hbefore⟩ := List.findSome?_eq_some_iff.1 h
  have hl : l ∈ blockLines script.text := by
    rw [hlines]
    exact List.mem_append_right _ List.mem_cons_self
  obtain ⟨i, raw, -, -, rfl⟩ := mem_blockLinesFrom_iff.1 hl
  have hline : e.line = i + 1 := by
    rw [(BlockLine.report?_eq_some_iff.1 hreport).2.1, Nat.add_comm]
  refine ⟨i, Script.reports_iff.2 ⟨hline, _, hl, Nat.add_comm 1 i, hreport⟩, ?_⟩
  intro i' e' hreports'
  obtain ⟨-, l', hl', hnumber', hreport'⟩ := Script.reports_iff.1 hreports'
  -- a malformed line is not before the first one, so it is that one or has a larger number
  have hsorted := blockLinesFrom_sorted false 1 (textLines script.text)
  change (blockLines script.text).Pairwise _ at hsorted
  rw [hlines, List.pairwise_append] at hsorted
  rw [hlines, List.mem_append, List.mem_cons] at hl'
  rcases hl' with hl' | rfl | hl'
  · simp [hbefore l' hl'] at hreport'
  · dsimp only at hnumber'
    omega
  · have hlt : 1 + i < l'.number := (List.pairwise_cons.1 hsorted.2.1).1 l' hl'
    omega

/-- A script with a malformed line has a first report. -/
theorem Script.Reports.findSome?_ne_none {script : Script} {i : Nat} {e : SyntaxError}
    (h : script.Reports i e) :
    (blockLines script.text).findSome? (BlockLine.report? script.name) ≠ none := by
  obtain ⟨-, l, hl, -, hreport⟩ := Script.reports_iff.1 h
  intro hnone
  simp [List.findSome?_eq_none_iff.1 hnone l hl] at hreport

/-- A failed parse reports a malformed line, and no malformed line stands before it. -/
theorem exists_first_malformed {scripts : List Script} {e : SyntaxError}
    (h : (parseScripts scripts).1 = .error e) :
    ∃ p i, MalformedAt scripts p i e ∧
      ∀ p' i' e', MalformedAt scripts p' i' e' → p < p' ∨ p = p' ∧ i ≤ i' := by
  rw [parseScripts_eq_error_iff, Session.readScripts_error] at h
  obtain ⟨before, script, after, rfl, hscript, hbefore⟩ := List.findSome?_eq_some_iff.1 h
  obtain ⟨i, hreports, hfirst⟩ := Script.exists_first_report hscript
  refine ⟨before.length, i, ⟨script, by simp, hreports⟩, ?_⟩
  rintro p' i' e' ⟨script', hscript', hreports'⟩
  rcases Nat.lt_trichotomy before.length p' with hlt | rfl | hgt
  · exact Or.inl hlt
  · obtain rfl : script = script' := by simpa using hscript'
    exact Or.inr ⟨rfl, hfirst i' e' hreports'⟩
  · -- the scripts before have no malformed line
    rw [List.getElem?_append_left hgt] at hscript'
    exact absurd (hbefore script' (List.mem_of_getElem? hscript')) hreports'.findSome?_ne_none

/-- Scripts with a malformed line cannot be parsed. -/
theorem MalformedAt.exists_error {scripts : List Script} {p i : Nat} {e : SyntaxError}
    (h : MalformedAt scripts p i e) : ∃ e', (parseScripts scripts).1 = .error e' := by
  obtain ⟨script, hscript, hreports⟩ := h
  cases hparse : (parseScripts scripts).1 with
  | error e' => exact ⟨e', rfl⟩
  | ok t =>
    have hnone : (Session.readScripts scripts .start).2 = none := by
      cases herror : (Session.readScripts scripts .start).2 with
      | none => rfl
      | some e' => simp [parseScripts_eq_error_iff.2 herror] at hparse
    rw [Session.readScripts_error, List.findSome?_eq_none_iff] at hnone
    exact absurd (hnone script (List.mem_of_getElem? hscript)) hreports.findSome?_ne_none

/-- **Reading fails exactly on the first malformed declaration**: a list of scripts is refused with a
    report iff the report is that of a malformed line inside a block, and no malformed line inside a
    block stands before it, neither in an earlier script nor earlier in the same one.  A tree is given
    iff no line inside a block is malformed.  Every report has the wording of a malformed signature.
    And from whatever state the scripts, or the lines of one, are read, the outcome is the same: what
    has been declared before does not matter. -/
theorem parse_fails_at_first_malformed (scripts : List Script) :
    (∀ e, (parseScripts scripts).1 = .error e ↔
      ∃ p i, MalformedAt scripts p i e ∧
        ∀ p' i' e', MalformedAt scripts p' i' e' → p < p' ∨ p = p' ∧ i ≤ i') ∧
    ((∃ t, (parseScripts scripts).1 = .ok t) ↔ ¬ ∃ p i e, MalformedAt scripts p i e) ∧
    (∀ e, (parseScripts scripts).1 = .error e → ∃ detail, e.message =
      e.source ++ bytes ":" ++ Bytes.decimalNat e.line ++ bytes ": malformed signature: " ++ detail) ∧
    (∀ s s', (Session.readScripts scripts s).2 = (Session.readScripts scripts s').2) ∧
    ∀ source ls s s', (Session.readLines source ls s).2 = (Session.readLines source ls s').2 := by
  refine ⟨?_, ?_, fun e _ => e.message_malformed, ?_, ?_⟩
  · intro e
    constructor
    · exact exists_first_malformed
    · rintro ⟨p, i, hmalformed, hfirst⟩
      -- some line is reported; both it and the given one are first, so they are the same line
      obtain ⟨e', herror⟩ := hmalformed.exists_error
      obtain ⟨p', i', hmalformed', hfirst'⟩ := exists_first_malformed herror
      have hle := hfirst p' i' e' hmalformed'
      have hge := hfirst' p i e hmalformed
      obtain ⟨rfl, rfl⟩ : p = p' ∧ i = i' := by omega
      rw [herror, hmalformed.unique hmalformed']
  · constructor
    · rintro ⟨t, hparse⟩ ⟨p, i, e, hmalformed⟩
      obtain ⟨e', herror⟩ := hmalformed.exists_error
      simp [hparse] at herror
    · intro hnone
      cases hparse : (parseScripts scripts).1 with
      | ok t => exact ⟨t, rfl⟩
      | error e =>
        obtain ⟨p, i, hmalformed, -⟩ := exists_first_malformed hparse
        exact absurd ⟨p, i, e, hmalformed⟩ hnone
  · intro s s'
    rw [Session.readScripts_error, Session.readScripts_error]
  · intro source ls s s'
    rw [Session.readLines_error, Session.readLines_error]

/-- The first script has a malformed line outside its block only; the second has two inside, and the
    first of them is reported. -/
theorem second_script_reported :
    let scripts : List Script :=
      [⟨bytes "a.js", bytes "Foo#run(]) -> X\n/*?\nclass Foo\n**/\nFoo#run(]) -> X"⟩,
        ⟨bytes "b.js", bytes "/*?\n * Foo#go(a) -> X\n * Foo#run(a[, b[, c]]) -> X\n * - a (|) - b\n**/"⟩]
    let e : SyntaxError := ⟨bytes "b.js", 3, bytes "Foo#run(a[, b[, c]]) -> X",
      .unbalancedBrackets (bytes "a[, b[, c]]")⟩
    (parseScripts scripts).1 = .error e ∧ MalformedAt scripts 1 2 e ∧
      (∃ e', MalformedAt scripts 1 3 e') ∧
      ∀ p' i' e', MalformedAt scripts p' i' e' → 1 < p' ∨ 1 = p' ∧ 2 ≤ i' := by
  intro scripts e
  have herror : (parseScripts scripts).1 = .error e :=
    parseScripts_eq_error_iff.2 (by decide)
  have hlater : MalformedAt scripts 1 3
      ⟨bytes "b.js", 4, bytes "- a (|) - b", .emptyType (bytes "|")⟩ :=
    ⟨_, rfl, by decide, rfl, rfl, by decide, by decide⟩
  obtain ⟨p, i, hmalformed, hfirst⟩ :=
    ((parse_fails_at_first_malformed scripts).1 e).1 herror
  obtain ⟨script, hscript, hreports⟩ := hmalformed
  obtain rfl : i = 2 := (Nat.succ.inj hreports.number).symm
  -- only the second script has the name in the report
  obtain rfl : p = 1 := by
    match p, hscript with
    | 0, hscript =>
      obtain rfl := Option.some.inj hscript
      exact absurd hreports.source (by decide)
    | 1, _ => rfl
    | _ + 2, hscript => cases hscript
  exact ⟨herror, ⟨script, hscript, hreports⟩, ⟨_, hlater⟩, hfirst⟩

end DocPages
