import DocPages.Proofs.ArgumentText

/-!
# Marks in Argument Lists

Where a declaration is cut depends on four bytes only, the marks `#`, `.`, `(` and `)`, and on whether
anything stands between two of them.  Rewriting an argument list the way pages show it adds, removes
and replaces other bytes, but never between two marks that have none between them, and it leaves
something between two marks that have.

This is stated with scans: machines that read a text byte by byte and treat all other bytes alike, one
such byte like many.  No scan can tell an argument list from the list that a page shows for it.

## Main results

- `MarkScan.run_writeArguments`: scans do not tell the two lists apart
- `Opens.of_writeArguments`, `Calls.of_writeArguments`, `notMem_writeArguments`: what this means for
  the places where a declaration can be cut
-/

namespace DocPages

/-- The bytes that decide where a declaration is cut. -/
def isMark (b : UInt8) : Bool := b == byte '#' || b == byte '.' || b == byte '(' || b == byte ')'

/-- A machine that reads bytes and treats all that are no marks alike, any number of them like one. -/
structure MarkScan (σ : Type) where
  /-- The state after one more byte. -/
  step : σ → UInt8 → σ
  /-- The state after bytes that are no marks. -/
  skip : σ → σ
  step_of_not_isMark : ∀ q b, isMark b = false → step q b = skip q
  skip_skip : ∀ q, skip (skip q) = skip q

theorem not_isMark_of_all {s : Bytes} (h : s.all (fun b => !isMark b) = true) :
    ∀ b ∈ s, isMark b = false := by
  simpa using h

namespace MarkScan

variable {σ : Type} (m : MarkScan σ)

/-- The state after a text. -/
def run (q : σ) (s : Bytes) : σ := s.foldl m.step q

@[simp] theorem run_nil (q : σ) : m.run q [] = q := rfl

@[simp] theorem run_cons (q : σ) (b : UInt8) (s : Bytes) : m.run q (b :: s) = m.run (m.step q b) s :=
  rfl

@[simp] theorem run_append (q : σ) (s t : Bytes) : m.run q (s ++ t) = m.run (m.run q s) t :=
  List.foldl_append

/-! ## §1 Bytes that are no marks -/

theorem run_of_not_isMark {s : Bytes} (hs : ∀ b ∈ s, isMark b = false) (hne : s ≠ []) (q : σ) :
    m.run q s = m.skip q := by
  induction s generalizing q with
  | nil => exact absurd rfl hne
  | cons b s ih =>
    rw [run_cons, m.step_of_not_isMark q b (hs b List.mem_cons_self)]
    cases s with
    | nil => rfl
    | cons c s =>
      rw [ih (fun x hx => hs x (List.mem_cons_of_mem _ hx)) (by simp), m.skip_skip]

theorem skip_run_of_not_isMark {s : Bytes} (hs : ∀ b ∈ s, isMark b = false) (q : σ) :
    m.skip (m.run q s) = m.skip q := by
  cases s with
  | nil => rfl
  | cons b s => rw [m.run_of_not_isMark hs (by simp), m.skip_skip]

/-! ## §2 Scanning arguments -/

theorem not_isMark_of_blank {b : UInt8} (h : b ≤ 0x20 ∨ 0x80 ≤ b) : isMark b = false := by
  have hmarks : ∀ c : UInt8, 0x20 < c → c < 0x80 → b ≠ c := by
    rintro c hlow hhigh rfl
    rcases h with h | h
    · exact absurd hlow (UInt8.not_lt.2 h)
    · exact absurd hhigh (UInt8.not_lt.2 h)
  simp [isMark, hmarks (byte '#') (by decide) (by decide), hmarks (byte '.') (by decide) (by decide),
    hmarks (byte '(') (by decide) (by decide), hmarks (byte ')') (by decide) (by decide)]

theorem skip_run_trim {q : σ} (hq : m.skip q = q) (s : Bytes) :
    m.skip (m.run q s) = m.skip (m.run q (trim s)) := by
  obtain ⟨u, v, hs, hblank⟩ := exists_eq_append_trim_append s
  -- blanks in front may be missing altogether, so the scan must start in a skipped state
  have hu : m.run q u = q := by
    cases u with
    | nil => rfl
    | cons b u =>
      rw [m.run_of_not_isMark (fun c hc => not_isMark_of_blank (hblank c (List.mem_append_left _ hc)))
        (by simp), hq]
  conv_lhs => rw [hs]
  rw [run_append, run_append, hu]
  exact m.skip_run_of_not_isMark
    (fun c hc => not_isMark_of_blank (hblank c (List.mem_append_right _ hc))) _

theorem run_shown {token text : Bytes} (h : Shown token text) (q : σ) :
    m.run q text = m.run q token := by
  rcases h with rfl | ⟨x, y, rfl, rfl⟩
  · rfl
  · -- the bytes put in stand next to a space, and one such byte counts like many
    have hmark : ∀ b ∈ bytes " = ", isMark b = false := not_isMark_of_all (by decide)
    have hspace : ∀ q, m.step q (byte ' ') = m.skip q :=
      fun q => m.step_of_not_isMark q _ (by decide)
    rw [run_append, run_append, run_append, m.run_of_not_isMark hmark (by decide), run_cons, run_cons,
      hspace, hspace, m.skip_skip]

theorem skip_run_text {required : Bool} {token : Bytes} {p : Parameter}
    (h : parseArgument required (trim token) = .ok p) {q : σ} (hq : m.skip q = q) :
    m.skip (m.run q token) = m.skip (m.run q p.text) := by
  rw [m.skip_run_trim hq, m.run_shown (parseArgument_eq_ok h).2.2]

/-- A run behind a comma: states that differ only by a skip are brought together by it. -/
theorem skip_run_followers {required : Bool} {tokens : List Bytes} {ps : List Parameter}
    (h : List.Forall₂ (fun token p => parseArgument required (trim token) = .ok p) tokens ps)
    {q q' : σ} (hq : m.skip q = m.skip q') :
    m.skip (m.run q (tokens.flatMap fun token => [byte ','] ++ token)) =
      m.skip (m.run q' (followers ps)) := by
  induction h generalizing q q' with
  | nil => exact hq
  | @cons token p tokens ps hparse _ ih =>
    have hcomma : m.run q [byte ','] = m.skip q :=
      m.run_of_not_isMark (not_isMark_of_all (by decide)) (by simp) q
    have hcomma' : m.run q' (bytes ", ") = m.skip q := by
      rw [m.run_of_not_isMark (not_isMark_of_all (by decide)) (by decide), hq]
    simp only [followers, List.flatMap_cons, run_append, hcomma, hcomma']
    exact ih (m.skip_run_text hparse (m.skip_skip q))

theorem skip_run_writeRun {required : Bool} {run : Bytes} {ps : List Parameter}
    (h : parseRun required run = .ok ps) {q : σ} (hq : m.skip q = q) :
    m.skip (m.run q run) = m.skip (m.run q (writeRun ps)) := by
  rcases parseRun_eq_ok h with ⟨rfl, rfl⟩ | ⟨-, -, hall⟩
  · rfl
  · have hrun := Bytes.join_splitOn (byte ',') run
    generalize Bytes.splitOn (byte ',') run = tokens at hrun hall
    subst hrun
    cases hall with
    | nil => rfl
    | cons hparse hrest =>
      rw [Bytes.join_cons, writeRun_cons, run_append, run_append]
      exact m.skip_run_followers hrest (m.skip_run_text hparse hq)

/-- The optional arguments, from the bracket on. -/
theorem skip_run_optional {opening optional : Bytes} {first second : List Parameter}
    (hopening : ∀ b ∈ opening, isMark b = false) (hne : opening ≠ [])
    (h : parseRun false optional = .ok second) {q q' : σ} (hq : m.skip q = m.skip q') :
    m.skip (m.run q (opening ++ optional ++ [byte ']'])) =
      m.skip (m.run q' (if second.isEmpty then []
        else byte '[' :: (optionalText first second ++ [byte ']']))) := by
  have hclosing : ∀ q, m.skip (m.run q [byte ']']) = m.skip q :=
    m.skip_run_of_not_isMark (not_isMark_of_all (by decide))
  have hopen : m.run q opening = m.skip q := m.run_of_not_isMark hopening hne q
  rcases parseRun_eq_ok h with ⟨rfl, rfl⟩ | ⟨-, hsecond, -⟩
  · -- empty brackets are not shown
    rw [run_append, run_append, hopen, hclosing, run_nil, m.skip_skip, hq]
    rfl
  · have hsep : m.run q' (byte '[' :: if first.isEmpty then [] else bytes ", ") = m.skip q := by
      rw [m.run_of_not_isMark _ (by simp), hq]
      split
      · exact not_isMark_of_all (by decide)
      · exact not_isMark_of_all (by decide)
    have hwrite : byte '[' :: (optionalText first second ++ [byte ']']) =
        (byte '[' :: if first.isEmpty then [] else bytes ", ") ++ writeRun second ++ [byte ']'] := by
      simp [optionalText]
    rw [if_neg (by simpa using hsecond), hwrite, run_append, run_append, run_append, run_append, hopen,
      hsep, hclosing, hclosing]
    exact m.skip_run_writeRun h (m.skip_skip q)

/-- Scans do not tell an argument list from the list that a page shows for it. -/
theorem run_writeArguments {s : Bytes} {ps : List Parameter} (h : parseArguments s = .ok ps) {q : σ}
    (hq : m.skip q = q) :
    m.skip (m.run q s) =
      m.skip (m.run q (writeArguments true false (Session.numberArguments 0 ps))) := by
  obtain ⟨required, optional, first, second, hruns, hfirst, hsecond, rfl⟩ :=
    parseArguments_eq_ok_iff.1 h
  have hreq := readable_of_parseRun hfirst hruns.1
  have hopt := readable_of_parseRun hsecond hruns.optional_bytes
  rw [writeArguments_eq_writeList (fun p hp => (hreq p hp).2.1) fun p hp => (hopt p hp).2.1]
  have hrun := m.skip_run_writeRun hfirst hq
  rw [writeList, run_append]
  rcases hruns.2 with ⟨rfl, rfl⟩ | ⟨inner, -, rfl, rfl⟩
  · obtain rfl : [] = second := Except.ok.inj hsecond
    exact hrun
  · -- the first runs leave states that agree up to a skip, and the brackets skip in both
    obtain ⟨sep, hsep, hinner⟩ := dropSeparator_cases inner
    have hopening : ∀ b ∈ byte '[' :: sep, isMark b = false := by
      have hall : separators.all (fun sep => (byte '[' :: sep).all fun b => !isMark b) = true := by
        decide
      exact not_isMark_of_all (List.all_eq_true.1 hall sep hsep)
    have hlist : required ++ byte '[' :: (inner ++ [byte ']']) =
        required ++ (byte '[' :: sep ++ dropSeparator inner ++ [byte ']']) := by
      conv_lhs => rw [hinner]
      simp
    rw [hlist, run_append]
    exact m.skip_run_optional hopening (by simp) hsecond hrun

end MarkScan

/-! ## §3 The places where a call can be cut -/

/-- An opening parenthesis stands before the first `mark`. -/
def Opens (mark : UInt8) (s : Bytes) : Prop := ∃ x y, s = x ++ byte '(' :: y ∧ mark ∉ x

/-- A number sign, something and an opening parenthesis stand before the second number sign. -/
def Calls (s : Bytes) : Prop :=
  ∃ x c y, s = x ++ byte '#' :: c :: y ∧ byte '#' ∉ x ∧ c ≠ byte '#' ∧ Opens (byte '#') y

theorem opens_cons_iff {mark : UInt8} (hmark : mark ≠ byte '(') {c : UInt8} {s : Bytes} :
    Opens mark (c :: s) ↔ c ≠ mark ∧ (c = byte '(' ∨ Opens mark s) := by
  constructor
  · rintro ⟨x, y, hs, hx⟩
    cases x with
    | nil =>
      obtain ⟨rfl, rfl⟩ := List.cons.inj hs
      exact ⟨Ne.symm hmark, Or.inl rfl⟩
    | cons d x =>
      obtain ⟨rfl, rfl⟩ := List.cons.inj hs
      exact ⟨fun h => hx (h ▸ List.mem_cons_self),
        Or.inr ⟨x, y, rfl, fun h => hx (List.mem_cons_of_mem _ h)⟩⟩
  · rintro ⟨hc, rfl | ⟨x, y, rfl, hx⟩⟩
    · exact ⟨[], s, rfl, by simp⟩
    · exact ⟨c :: x, y, rfl, by simp [Ne.symm hc, hx]⟩

theorem calls_cons_iff {c : UInt8} {s : Bytes} :
    Calls (c :: s) ↔
      if c = byte '#' then ∃ d y, s = d :: y ∧ d ≠ byte '#' ∧ Opens (byte '#') y else Calls s := by
  split
  · next hc =>
    subst hc
    constructor
    · rintro ⟨x, d, y, hs, hx, hd, hy⟩
      cases x with
      | nil => exact ⟨d, y, (List.cons.inj hs).2, hd, hy⟩
      | cons e x => exact absurd ((List.cons.inj hs).1 ▸ List.mem_cons_self) hx
    · rintro ⟨d, y, rfl, hd, hy⟩
      exact ⟨[], d, y, rfl, by simp, hd, hy⟩
  · next hc =>
    constructor
    · rintro ⟨x, d, y, hs, hx, hd, hy⟩
      cases x with
      | nil => exact absurd (List.cons.inj hs).1 hc
      | cons e x =>
        exact ⟨x, d, y, (List.cons.inj hs).2, fun h => hx (List.mem_cons_of_mem _ h), hd, hy⟩
    · rintro ⟨x, d, y, rfl, hx, hd, hy⟩
      exact ⟨c :: x, d, y, rfl, by simp [Ne.symm hc, hx], hd, hy⟩

namespace MarkScan

/-- How far a scan for a call has come. -/
inductive CallState where
  /-- The mark was not seen. -/
  | before
  /-- The mark was the last byte. -/
  | marked
  /-- Something stands behind the mark. -/
  | inside
  /-- A parenthesis was found. -/
  | found
  /-- The mark came a second time. -/
  | missed
  deriving DecidableEq

/-- The scan for a parenthesis behind a mark, at least one byte away from it. -/
def call (mark : UInt8) (hmark : isMark mark = true) : MarkScan CallState where
  step q b :=
    match q with
    | .before => if b = mark then .marked else .before
    | .marked => if b = mark then .missed else .inside
    | .inside => if b = mark then .missed else if b = byte '(' then .found else .inside
    | .found => .found
    | .missed => .missed
  skip
    | .marked => .inside
    | q => q
  step_of_not_isMark q b hb := by
    have hne : ∀ c, isMark c = true → b ≠ c := by
      rintro c hc rfl
      simp [hc] at hb
    cases q <;> simp [hne mark hmark, hne (byte '(') (by decide)]
  skip_skip q := by cases q <;> rfl

section Call

variable {mark : UInt8} (hmark : isMark mark = true)

theorem skip_call_eq_found_iff {q : CallState} : (call mark hmark).skip q = .found ↔ q = .found := by
  cases q <;> simp [call]

theorem run_call_found (s : Bytes) : (call mark hmark).run .found s = .found := by
  induction s with
  | nil => rfl
  | cons b s ih => exact ih

theorem run_call_missed (s : Bytes) : (call mark hmark).run .missed s = .missed := by
  induction s with
  | nil => rfl
  | cons b s ih => exact ih

theorem run_call_inside (hne : mark ≠ byte '(') {s : Bytes} :
    (call mark hmark).run .inside s = .found ↔ Opens mark s := by
  induction s with
  | nil => simp [Opens]
  | cons b s ih =>
    rw [opens_cons_iff hne, run_cons, ← ih]
    by_cases hb : b = mark
    · have hstep : (call mark hmark).step .inside b = .missed := by simp [call, hb]
      rw [hstep, run_call_missed]
      simp [hb]
    · by_cases hopen : b = byte '('
      · have hstep : (call mark hmark).step .inside b = .found := by
          simp [call, hopen, Ne.symm hne]
        rw [hstep, run_call_found]
        simp [hopen, Ne.symm hne]
      · have hstep : (call mark hmark).step .inside b = .inside := by simp [call, hb, hopen]
        rw [hstep]
        simp [hb, hopen]

theorem run_call_before (hmark : isMark (byte '#') = true) {s : Bytes} :
    (call (byte '#') hmark).run .before s = .found ↔ Calls s := by
  induction s with
  | nil => simp [Calls]
  | cons b s ih =>
    rw [calls_cons_iff, run_cons]
    by_cases hb : b = byte '#'
    · have hstep : (call (byte '#') hmark).step .before b = .marked := by simp [call, hb]
      rw [hstep, if_pos hb]
      cases s with
      | nil => simp
      | cons d y =>
        rw [run_cons]
        -- the byte behind the mark is part of the name, even a parenthesis
        by_cases hd : d = byte '#'
        · have hstep : (call (byte '#') hmark).step .marked d = .missed := by simp [call, hd]
          rw [hstep, run_call_missed]
          simp [hd]
        · have hstep : (call (byte '#') hmark).step .marked d = .inside := by simp [call, hd]
          rw [hstep, run_call_inside hmark (by decide)]
          simp [hd]
    · have hstep : (call (byte '#') hmark).step .before b = .before := by simp [call, hb]
      rw [hstep, if_neg hb, ih]

end Call

/-- The scan for one mark. -/
def holds (mark : UInt8) (hmark : isMark mark = true) : MarkScan Bool where
  step q b := q || b == mark
  skip := id
  step_of_not_isMark q b hb := by
    have hne : b ≠ mark := by
      rintro rfl
      simp [hmark] at hb
    simp [hne]
  skip_skip _ := rfl

theorem run_holds {mark : UInt8} {hmark : isMark mark = true} {q : Bool} {s : Bytes} :
    (holds mark hmark).run q s = true ↔ q = true ∨ mark ∈ s := by
  induction s generalizing q with
  | nil => simp
  | cons b s ih =>
    have hstep : (holds mark hmark).step q b = true ↔ q = true ∨ mark = b := by
      simp [holds, @eq_comm _ b]
    rw [run_cons, ih, List.mem_cons, hstep, or_assoc]

end MarkScan

section Written

variable {s : Bytes} {ps : List Parameter}

theorem Opens.of_writeArguments {mark : UInt8} (hmark : isMark mark = true) (hne : mark ≠ byte '(')
    (h : parseArguments s = .ok ps)
    (hopens : Opens mark (writeArguments true false (Session.numberArguments 0 ps))) :
    Opens mark s := by
  rw [← MarkScan.run_call_inside hmark hne, ← MarkScan.skip_call_eq_found_iff hmark] at hopens ⊢
  rw [(MarkScan.call mark hmark).run_writeArguments h rfl, hopens]

theorem Calls.of_writeArguments (h : parseArguments s = .ok ps)
    (hcalls : Calls (writeArguments true false (Session.numberArguments 0 ps))) : Calls s := by
  have hmark : isMark (byte '#') = true := by decide
  rw [← MarkScan.run_call_before hmark, ← MarkScan.skip_call_eq_found_iff hmark] at hcalls ⊢
  rw [(MarkScan.call (byte '#') hmark).run_writeArguments h rfl, hcalls]

theorem notMem_writeArguments {mark : UInt8} (hmark : isMark mark = true)
    (h : parseArguments s = .ok ps) (hs : mark ∉ s) :
    mark ∉ writeArguments true false (Session.numberArguments 0 ps) := by
  intro hmem
  have hrun := (MarkScan.holds mark hmark).run_writeArguments h (q := false) rfl
  have hholds : (MarkScan.holds mark hmark).run false s = true :=
    hrun.trans (MarkScan.run_holds.2 (Or.inr hmem))
  rcases MarkScan.run_holds.1 hholds with hfalse | hmem
  · exact Bool.noConfusion hfalse
  · exact hs hmem

end Written

end DocPages
