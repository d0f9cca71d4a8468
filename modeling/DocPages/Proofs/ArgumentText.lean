import DocPages.Page.Markup
import DocPages.Session
import DocPages.Proofs.DeclarationKeys
import DocPages.Proofs.Trimming

/-!
# Argument Lists Read Back

An argument list may be written in many ways: with any blanks around the arguments, with or without
a comma inside the bracket, with or without the equals sign before a default.  Pages show one way of
writing it.  That text is read as the same arguments.

## Main results

- `parseArgument_eq_ok`, `parseArgument_text`: single arguments
- `parseRun_writeRun`: comma-separated runs
- `runsOf_iff`, `parseArguments_eq_ok_iff`: how a list is cut into required and optional arguments
- `parseArguments_writeList`: the text of a list is read as the list
- `parseArguments_writeArguments`: the text that a page shows for a list is read as the list
- `parseTypes_join`: the same for unions of types
-/

namespace DocPages

/-! ## §1 Separated pieces -/

theorem map_trim_splitOn_space_cons {sep : UInt8} (hsep : byte ' ' ≠ sep) (s : Bytes) :
    (Bytes.splitOn sep (byte ' ' :: s)).map trim = (Bytes.splitOn sep s).map trim := by
  obtain ⟨piece, more, hs, hcons⟩ := Bytes.splitOn_cons_of_ne hsep s
  rw [hs, hcons, List.map_cons, List.map_cons, trim_space_cons]

/-- Trimmed pieces that do not hold the separator are found again when they are joined with spaces
    around it. -/
theorem map_trim_splitOn_join {sep : UInt8} (hsep : byte ' ' ≠ sep) {pad : Bytes}
    (hpad : pad = [] ∨ pad = [byte ' ']) {xs : List Bytes} (hne : xs ≠ [])
    (hxs : ∀ x ∈ xs, sep ∉ x ∧ trim x = x) :
    (Bytes.splitOn sep (Bytes.join (pad ++ [sep, byte ' ']) xs)).map trim = xs := by
  induction xs with
  | nil => exact absurd rfl hne
  | cons x xs ih =>
    obtain ⟨hx, htrim⟩ := hxs x List.mem_cons_self
    cases xs with
    | nil => simp [Bytes.join, Bytes.splitOn_of_notMem hx, htrim]
    | cons y more =>
      have hrest := ih (by simp) fun z hz => hxs z (List.mem_cons_of_mem _ hz)
      have hjoin : Bytes.join (pad ++ [sep, byte ' ']) (x :: y :: more) =
          (x ++ pad) ++ sep :: byte ' ' :: Bytes.join (pad ++ [sep, byte ' ']) (y :: more) := by
        simp [Bytes.join]
      have hxpad : sep ∉ x ++ pad ∧ trim (x ++ pad) = x := by
        rcases hpad with rfl | rfl
        · simpa using And.intro hx htrim
        · exact ⟨by simp [hx, Ne.symm hsep], by rw [trim_append_space, htrim]⟩
      rw [hjoin, Bytes.splitOn_append_cons hxpad.1, List.map_cons, hxpad.2,
        map_trim_splitOn_space_cons hsep, hrest]

/-! ## §2 Single arguments -/

namespace Parameter

/-- An argument as a page shows it. -/
def text (p : Parameter) : Bytes :=
  p.name ++ if p.default.isEmpty then [] else bytes " = " ++ p.default

/-- What is known about every argument that was read. -/
structure WellFormed (p : Parameter) : Prop where
  name_ne_nil : p.name ≠ []
  name_bytes : ∀ b ∈ p.name, isNameByte b = true
  default_bytes : byte '=' ∉ p.default
  trimmed : trim p.text = p.text

end Parameter

/-- The three forms of an argument: a name alone, a name with the mark ` = ` and a default, and a name
    with a default behind a space. -/
theorem parseArgument_cases {required : Bool} {s : Bytes} {p : Parameter}
    (h : parseArgument required s = .ok p) :
    p.required = required ∧ p.name ≠ [] ∧ (∀ b ∈ p.name, isNameByte b = true) ∧
      byte '=' ∉ p.default ∧
      (s = p.name ∧ p.default = [] ∨ s = p.name ++ bytes " = " ++ p.default ∨
        ∃ y, p.default = byte ' ' :: y ∧ s = p.name ++ byte ' ' :: y) := by
  have hs : s.takeWhile isNameByte ++ s.dropWhile isNameByte = s := List.takeWhile_append_dropWhile
  have hhead := List.head?_dropWhile_not isNameByte s
  unfold parseArgument at h
  dsimp only at h
  split at h
  · simp at h
  next hok =>
  obtain rfl := Except.ok.inj h
  simp only [Bool.or_eq_true, List.isEmpty_iff, List.contains_iff_mem, not_or] at hok
  refine ⟨rfl, hok.1, fun b hb => List.mem_takeWhile_imp hb, hok.2, ?_⟩
  dsimp only
  cases hdrop : Bytes.dropPrefix? (bytes " = ") (s.dropWhile isNameByte) with
  | some rest =>
    have hrest := Bytes.dropPrefix?_eq_some_iff.1 hdrop
    refine Or.inr (Or.inl ?_)
    rw [Bytes.trimPrefix, hdrop, Option.getD_some, List.append_assoc, ← hrest, hs]
  | none =>
    rw [Bytes.trimPrefix, hdrop, Option.getD_none] at hok ⊢
    cases hrest : s.dropWhile isNameByte with
    | nil =>
      rw [hrest, List.append_nil] at hs
      exact Or.inl ⟨hs.symm, rfl⟩
    | cons c y =>
      -- the byte behind the name is a space or an equals sign, and the second is refused
      rw [hrest] at hhead hok hs
      have hc : c = byte ' ' := by
        have hc : isNameByte c = false := by simpa using hhead
        have heq : c ≠ byte '=' := fun h => hok.2 (h ▸ List.mem_cons_self)
        simpa [isNameByte, heq] using hc
      subst hc
      exact Or.inr (Or.inr ⟨y, rfl, hs.symm⟩)

/-- A name is read up to the first blank, and what follows it is the default, without the mark. -/
theorem parseArgument_append (required : Bool) {name rest : Bytes} (hne : name ≠ [])
    (hname : ∀ b ∈ name, isNameByte b = true) (hrest : rest = [] ∨ ∃ y, rest = byte ' ' :: y)
    (heq : byte '=' ∉ Bytes.trimPrefix (bytes " = ") rest) :
    parseArgument required (name ++ rest) =
      .ok ⟨name, required, Bytes.trimPrefix (bytes " = ") rest⟩ := by
  have hspace : ¬isNameByte (byte ' ') = true := by decide
  have htake : (name ++ rest).takeWhile isNameByte = name := by
    rw [List.takeWhile_append_of_pos hname]
    rcases hrest with rfl | ⟨y, rfl⟩
    · simp
    · simp [List.takeWhile_cons_of_neg hspace]
  have hdrop : (name ++ rest).dropWhile isNameByte = rest := by
    rw [List.dropWhile_append_of_pos hname]
    rcases hrest with rfl | ⟨y, rfl⟩
    · rfl
    · exact List.dropWhile_cons_of_neg hspace
  simp [parseArgument, htake, hdrop, hne, heq]

/-- A trimmed token does not end in the space of the mark. -/
theorem default_ne_nil_of_trim {name default : Bytes}
    (h : trim (name ++ bytes " = " ++ default) = name ++ bytes " = " ++ default) : default ≠ [] := by
  rintro rfl
  have hspace : name ++ bytes " = " ++ [] = (name ++ bytes " =") ++ [byte ' '] := by
    rw [List.append_nil, List.append_assoc]
    rfl
  rw [hspace] at h
  exact trim_append_space_ne _ h

/-- An argument is shown as it was written, or with an equals sign put in front of its default. -/
def Shown (token text : Bytes) : Prop :=
  text = token ∨ ∃ x y, token = x ++ byte ' ' :: y ∧ text = x ++ bytes " = " ++ byte ' ' :: y

theorem parseArgument_eq_ok {required : Bool} {token : Bytes} {p : Parameter}
    (h : parseArgument required (trim token) = .ok p) :
    p.WellFormed ∧ p.required = required ∧ Shown (trim token) p.text := by
  have htrim := trim_trim token
  generalize trim token = s at h htrim
  obtain ⟨hrequired, hne, hname, hdefault, hform⟩ := parseArgument_cases h
  suffices hshown : trim p.text = p.text ∧ Shown s p.text from
    ⟨⟨hne, hname, hdefault, hshown.1⟩, hrequired, hshown.2⟩
  rcases hform with ⟨hs, hnil⟩ | hs | ⟨y, hy, hs⟩
  · have htext : p.text = s := by simp [Parameter.text, hnil, hs]
    exact ⟨by rw [htext, htrim], Or.inl htext⟩
  · have hnil : p.default ≠ [] := default_ne_nil_of_trim (hs ▸ htrim)
    have htext : p.text = s := by simp [Parameter.text, hnil, hs]
    exact ⟨by rw [htext, htrim], Or.inl htext⟩
  · -- the default keeps its spaces, so the text is longer than what was written
    have htext : p.text = p.name ++ bytes " = " ++ byte ' ' :: y := by simp [Parameter.text, hy]
    refine ⟨?_, Or.inr ⟨p.name, y, hs, htext⟩⟩
    rw [htext]
    rw [hs] at htrim
    have hmark : p.name ++ bytes " = " ++ byte ' ' :: y =
        p.name ++ byte ' ' :: (bytes "= " ++ byte ' ' :: y) := by
      rw [List.append_assoc]
      rfl
    rw [hmark]
    exact trim_eq_self_of_ends hne (by decide) (by decide) htrim

/-- The text of an argument is read as the argument. -/
theorem parseArgument_text {p : Parameter} (hp : p.WellFormed) :
    parseArgument p.required p.text = .ok p := by
  obtain ⟨name, required, default⟩ := p
  obtain ⟨hne, hname, hdefault, -⟩ := hp
  cases default with
  | nil => exact parseArgument_append required hne hname (Or.inl rfl) hdefault
  | cons c rest => exact parseArgument_append required hne hname (Or.inr ⟨_, rfl⟩) hdefault

/-! ## §3 Runs -/

/-- A run of arguments as a page shows it. -/
def writeRun (ps : List Parameter) : Bytes := Bytes.join (bytes ", ") (ps.map Parameter.text)

/-- What is known about the arguments of a run that was read. -/
def Readable (required : Bool) (ps : List Parameter) : Prop :=
  ∀ p ∈ ps, p.WellFormed ∧ p.required = required ∧ ∀ b ∈ p.text, b ≠ byte ',' ∧ isBracket b = false

theorem parseRun_eq_ok {required : Bool} {run : Bytes} {ps : List Parameter}
    (h : parseRun required run = .ok ps) :
    run = [] ∧ ps = [] ∨ run ≠ [] ∧ ps ≠ [] ∧
      List.Forall₂ (fun token p => parseArgument required (trim token) = .ok p)
        (Bytes.splitOn (byte ',') run) ps := by
  unfold parseRun at h
  split at h
  · next hempty => exact Or.inl ⟨List.isEmpty_iff.1 hempty, (Except.ok.inj h).symm⟩
  · next hempty =>
    have hall := mapM_eq_ok_iff.1 h
    refine Or.inr ⟨fun hnil => hempty (by simp [hnil]), ?_, hall⟩
    rintro rfl
    exact Bytes.splitOn_ne_nil _ _ (List.forall₂_nil_right_iff.1 hall)

theorem Shown.mem_of_mem {token text : Bytes} (h : Shown token text) {b : UInt8} (hb : b ∈ text) :
    b ∈ token ∨ b ∈ bytes " = " := by
  rcases h with rfl | ⟨x, y, rfl, rfl⟩
  · exact Or.inl hb
  · simp only [List.mem_append, List.mem_cons] at hb ⊢
    tauto

/-- The arguments of a run without brackets can be written again. -/
theorem readable_of_parseRun {required : Bool} {run : Bytes} {ps : List Parameter}
    (h : parseRun required run = .ok ps) (hrun : ∀ b ∈ run, isBracket b = false) :
    Readable required ps := by
  intro p hp
  rcases parseRun_eq_ok h with ⟨-, rfl⟩ | ⟨-, -, hall⟩
  · simp at hp
  · obtain ⟨token, htoken, hparse⟩ := exists_of_forall₂_of_mem hall hp
    obtain ⟨hwf, hrequired, hshown⟩ := parseArgument_eq_ok hparse
    refine ⟨hwf, hrequired, fun b hb => ?_⟩
    rcases hshown.mem_of_mem hb with hb | hb
    · -- a byte of the token is a byte of the run other than its separator
      have htok : b ∈ token := mem_of_mem_trim hb
      have hmem : b ∈ run := by
        rw [← Bytes.join_splitOn (byte ',') run]
        exact Bytes.mem_join_of_mem htoken htok
      refine ⟨?_, hrun b hmem⟩
      rintro rfl
      exact Bytes.notMem_of_mem_splitOn htoken htok
    · have hmark : (bytes " = ").all (fun b => b != byte ',' && !isBracket b) = true := by decide
      simpa using List.all_eq_true.1 hmark b hb

theorem Parameter.WellFormed.text_ne_nil {p : Parameter} (hp : p.WellFormed) : p.text ≠ [] := by
  simp [Parameter.text, hp.name_ne_nil]

theorem parseRun_writeRun {required : Bool} {ps : List Parameter} (hps : Readable required ps) :
    parseRun required (writeRun ps) = .ok ps := by
  cases ps with
  | nil => rfl
  | cons p ps =>
    have hne : writeRun (p :: ps) ≠ [] := by
      simp [writeRun, Bytes.join_cons, (hps p List.mem_cons_self).1.text_ne_nil]
    have hsplit : ((Bytes.splitOn (byte ',') (writeRun (p :: ps))).map trim) =
        (p :: ps).map Parameter.text := by
      -- a written argument holds no comma, so splitting finds the pieces that were joined
      refine map_trim_splitOn_join (by decide) (Or.inl rfl) (by simp) ?_
      intro x hx
      obtain ⟨q, hq, rfl⟩ := List.mem_map.1 hx
      obtain ⟨hwf, -, hbytes⟩ := hps q hq
      exact ⟨fun h => (hbytes _ h).1 rfl, hwf.trimmed⟩
    have hall : List.Forall₂ (fun token p => parseArgument required (trim token) = .ok p)
        (Bytes.splitOn (byte ',') (writeRun (p :: ps))) (p :: ps) := by
      rw [← List.forall₂_map_left_iff (f := trim)
        (R := fun token p => parseArgument required token = .ok p), hsplit,
        List.forall₂_map_left_iff, List.forall₂_same]
      intro q hq
      obtain ⟨hwf, rfl, -⟩ := hps q hq
      exact parseArgument_text hwf
    rw [parseRun, if_neg (by simpa using hne)]
    exact mapM_eq_ok_iff.2 hall

theorem not_isBracket_of_mem_comma {b : UInt8} (hb : b ∈ bytes ", ") : isBracket b = false := by
  have hcomma : (bytes ", ").all (fun b => !isBracket b) = true := by decide
  simpa using List.all_eq_true.1 hcomma b hb

theorem Readable.not_isBracket {required : Bool} {ps : List Parameter} (hps : Readable required ps)
    {b : UInt8} (hb : b ∈ writeRun ps) : isBracket b = false := by
  rcases Bytes.mem_join hb with hb | ⟨x, hx, hb⟩
  · exact not_isBracket_of_mem_comma hb
  · obtain ⟨p, hp, rfl⟩ := List.mem_map.1 hx
    exact ((hps p hp).2.2 b hb).2

/-! ## §4 Argument lists -/

/-- What may stand between the opening bracket and the optional run. -/
def separators : List Bytes := [[], bytes ",", bytes " ", bytes ", "]

/-- The separator that is dropped is one of those that may stand there. -/
theorem dropSeparator_cases (s : Bytes) : ∃ sep ∈ separators, s = sep ++ dropSeparator s := by
  have hboth : bytes ", " = bytes "," ++ bytes " " := rfl
  rcases Bytes.trimPrefix_cases (bytes ",") s with hcomma | hcomma
  · rcases Bytes.trimPrefix_cases (bytes " ") (Bytes.trimPrefix (bytes ",") s) with hspace | hspace
    · refine ⟨bytes ", ", by simp [separators], ?_⟩
      rw [hboth, List.append_assoc, dropSeparator, ← hspace, ← hcomma]
    · refine ⟨bytes ",", by simp [separators], ?_⟩
      rw [dropSeparator, hspace, ← hcomma]
  · rcases Bytes.trimPrefix_cases (bytes " ") s with hspace | hspace
    · refine ⟨bytes " ", by simp [separators], ?_⟩
      rw [dropSeparator, hcomma, ← hspace]
    · refine ⟨[], by simp [separators], ?_⟩
      rw [dropSeparator, hcomma, hspace, List.nil_append]

/-- A list is cut into two runs: it is a run of required arguments, or such a run and an optional one in
    brackets.  Neither run holds a bracket. -/
def RunsOf (s required optional : Bytes) : Prop :=
  (∀ b ∈ required, isBracket b = false) ∧
    (s = required ∧ optional = [] ∨
      ∃ inner, (∀ b ∈ inner, isBracket b = false) ∧
        s = required ++ byte '[' :: (inner ++ [byte ']']) ∧ optional = dropSeparator inner)

theorem filter_isBracket_eq_nil {s : Bytes} (hs : ∀ b ∈ s, isBracket b = false) :
    s.filter isBracket = [] :=
  List.filter_eq_nil_iff.2 fun b hb => by simp [hs b hb]

theorem filter_isBracket_bracketed {required inner : Bytes} (hrequired : ∀ b ∈ required, isBracket b = false)
    (hinner : ∀ b ∈ inner, isBracket b = false) {c : UInt8} (hc : isBracket c = true) :
    (required ++ c :: (inner ++ [byte ']'])).filter isBracket = [c, byte ']'] := by
  have hclosing : isBracket (byte ']') = true := by decide
  simp [filter_isBracket_eq_nil hrequired, filter_isBracket_eq_nil hinner, hc, hclosing]

/-- The first bracket ends the required run, even a closing one; the last byte closes the list. -/
theorem splitRuns?_eq_some {s required optional : Bytes}
    (h : splitRuns? s = some (required, optional)) :
    (∀ b ∈ required, isBracket b = false) ∧
      (s = required ∧ optional = [] ∨
        ∃ c inner, isBracket c = true ∧ (∀ b ∈ inner, isBracket b = false) ∧
          s = required ++ c :: (inner ++ [byte ']']) ∧ optional = dropSeparator inner) := by
  have hs := List.takeWhile_append_dropWhile (p := fun b => !isBracket b) (l := s)
  have hhead := List.head?_dropWhile_not (fun b => !isBracket b) s
  have hrequired : ∀ b ∈ s.takeWhile fun b => !isBracket b, isBracket b = false :=
    fun b hb => by simpa using List.mem_takeWhile_imp hb
  unfold splitRuns? at h
  split at h
  · next hdrop =>
    obtain ⟨rfl, rfl⟩ := Prod.mk.inj (Option.some.inj h)
    rw [hdrop, List.append_nil] at hs
    exact ⟨hrequired, Or.inl ⟨hs.symm, rfl⟩⟩
  · next c rest hdrop =>
    split at h
    · next inner hsuffix =>
      split at h
      · simp at h
      next hinner =>
      obtain ⟨rfl, rfl⟩ := Prod.mk.inj (Option.some.inj h)
      rw [bytes_bracket.2] at hsuffix
      obtain rfl := Bytes.dropSuffix?_eq_some_iff.1 hsuffix
      rw [hdrop] at hs hhead
      refine ⟨hrequired, Or.inr ⟨c, inner, by simpa using hhead, ?_, hs.symm, rfl⟩⟩
      simpa only [List.any_eq_true, not_exists, not_and, Bool.not_eq_true] using hinner
    · simp at h

/-- Counting the brackets and cutting at them accept a list together when it has two runs: the count
    excludes a closing bracket in the place of the opening one, and the cut excludes blanks behind the
    closing one. -/
theorem runsOf_iff {s required optional : Bytes} :
    bracketsBalanced s = true ∧ splitRuns? s = some (required, optional) ↔ RunsOf s required optional := by
  have hopening : isBracket (byte '[') = true := by decide
  constructor
  · rintro ⟨hbalanced, hsplit⟩
    obtain ⟨hrequired, hform⟩ := splitRuns?_eq_some hsplit
    rcases hform with hplain | ⟨c, inner, hc, hinner, rfl, hoptional⟩
    · exact ⟨hrequired, Or.inl hplain⟩
    · obtain rfl : c = byte '[' := by
        have hbrackets : bytes "[]" = [byte '[', byte ']'] := rfl
        rw [bracketsBalanced, filter_isBracket_bracketed hrequired hinner hc, hbrackets] at hbalanced
        simp only [List.isEmpty_cons, Bool.false_or, Bool.and_eq_true, beq_iff_eq] at hbalanced
        exact (List.cons.inj hbalanced.1).1
      exact ⟨hrequired, Or.inr ⟨inner, hinner, rfl, hoptional⟩⟩
  · rintro ⟨hrequired, ⟨rfl, rfl⟩ | ⟨inner, hinner, rfl, rfl⟩⟩
    · have hall : ∀ b ∈ s, (!isBracket b) = true := fun b hb => by simp [hrequired b hb]
      refine ⟨by simp [bracketsBalanced, filter_isBracket_eq_nil hrequired], ?_⟩
      simp only [splitRuns?, List.takeWhile_eq_self_iff.2 hall, List.dropWhile_eq_nil_iff.2 hall]
    · have hall : ∀ b ∈ required, (!isBracket b) = true := fun b hb => by simp [hrequired b hb]
      constructor
      · have hlast : (bytes "]").isSuffixOf
            (trim (required ++ byte '[' :: (inner ++ [byte ']']))) = true := by
          rw [bytes_bracket.2, List.isSuffixOf_iff_suffix, ← List.cons_append, ← List.append_assoc]
          exact suffix_trim_of_not_isBlank _ (by decide) (by decide)
        have hfound := filter_isBracket_bracketed hrequired hinner hopening
        simp only [bracketsBalanced, hfound, hlast]
        decide
      · have htake : (required ++ byte '[' :: (inner ++ [byte ']'])).takeWhile
            (fun b => !isBracket b) = required := by
          rw [List.takeWhile_append_of_pos hall]
          simp [hopening]
        have hdrop : (required ++ byte '[' :: (inner ++ [byte ']'])).dropWhile
            (fun b => !isBracket b) = byte '[' :: (inner ++ [byte ']']) := by
          rw [List.dropWhile_append_of_pos hall]
          simp [hopening]
        have hsuffix : Bytes.dropSuffix? [byte ']'] (inner ++ [byte ']']) = some inner :=
          Bytes.dropSuffix?_eq_some_iff.2 rfl
        have hany : inner.any isBracket = false :=
          List.any_eq_false.2 fun b hb => by simp [hinner b hb]
        simp [splitRuns?, htake, hdrop, bytes_bracket, hsuffix, hany]

theorem RunsOf.optional_bytes {s required optional : Bytes} (h : RunsOf s required optional) :
    ∀ b ∈ optional, isBracket b = false := by
  rcases h.2 with ⟨-, rfl⟩ | ⟨inner, hinner, -, rfl⟩
  · simp
  · obtain ⟨sep, -, hsep⟩ := dropSeparator_cases inner
    intro b hb
    apply hinner b
    rw [hsep]
    exact List.mem_append_right _ hb

/-- Reading a list is reading its two runs. -/
theorem parseArguments_eq_ok_iff {s : Bytes} {ps : List Parameter} :
    parseArguments s = .ok ps ↔
      ∃ required optional first second, RunsOf s required optional ∧
        parseRun true required = .ok first ∧ parseRun false optional = .ok second ∧
        ps = first ++ second := by
  constructor
  · intro h
    unfold parseArguments at h
    split at h
    · simp at h
    next hbalanced =>
    split at h
    · simp at h
    next required optional hsplit =>
    have hruns := runsOf_iff.1 ⟨by simpa using hbalanced, hsplit⟩
    cases hfirst : parseRun true required with
    | error e => simp [hfirst, bind, Except.bind] at h
    | ok first =>
      cases hsecond : parseRun false optional with
      | error e => simp [hfirst, hsecond, bind, Except.bind] at h
      | ok second =>
        simp only [hfirst, hsecond, bind, Except.bind, pure, Except.pure, Except.ok.injEq] at h
        exact ⟨required, optional, first, second, hruns, hfirst, hsecond, h.symm⟩
  · rintro ⟨required, optional, first, second, hruns, hfirst, hsecond, rfl⟩
    obtain ⟨hbalanced, hsplit⟩ := runsOf_iff.2 hruns
    simp only [parseArguments, hbalanced, hsplit, hfirst, hsecond]
    rfl

/-- What stands between the brackets of a list; the comma is missing when nothing stands before
    them. -/
def optionalText (first second : List Parameter) : Bytes :=
  (if first.isEmpty then [] else bytes ", ") ++ writeRun second

/-- An argument list as a page shows it: the optional arguments in one pair of brackets. -/
def writeList (first second : List Parameter) : Bytes :=
  writeRun first ++
    if second.isEmpty then [] else byte '[' :: (optionalText first second ++ [byte ']'])

theorem dropSeparator_optionalText {first second : List Parameter} (hsecond : Readable false second) :
    dropSeparator (optionalText first second) = writeRun second := by
  cases first with
  | cons p ps => rfl
  | nil =>
    cases second with
    | nil => rfl
    | cons p ps =>
      -- the run starts with a name, and a name with neither a comma nor a space
      obtain ⟨hwf, -, hbytes⟩ := hsecond p List.mem_cons_self
      obtain ⟨c, name, hname⟩ := List.exists_cons_of_ne_nil hwf.name_ne_nil
      have hcomma : c ≠ byte ',' := (hbytes c (by simp [Parameter.text, hname])).1
      have hspace : c ≠ byte ' ' := by
        have hc := hwf.name_bytes c (by simp [hname])
        rintro rfl
        exact absurd hc (by decide)
      obtain ⟨rest, hrest⟩ : ∃ rest, writeRun (p :: ps) = c :: rest := by
        simp [writeRun, Bytes.join_cons, Parameter.text, hname]
      simp [optionalText, hrest, dropSeparator, Bytes.trimPrefix, Bytes.dropPrefix?_byte_cons,
        bytes_comma, bytes_space, Ne.symm hcomma, Ne.symm hspace]

theorem not_isBracket_of_mem_optionalText {first second : List Parameter}
    (hsecond : Readable false second) {b : UInt8} (hb : b ∈ optionalText first second) :
    isBracket b = false := by
  rcases List.mem_append.1 hb with hb | hb
  · split at hb
    · simp at hb
    · exact not_isBracket_of_mem_comma hb
  · exact hsecond.not_isBracket hb

/-- The text of an argument list is read as the same arguments. -/
theorem parseArguments_writeList {first second : List Parameter} (hfirst : Readable true first)
    (hsecond : Readable false second) :
    parseArguments (writeList first second) = .ok (first ++ second) := by
  have hruns : RunsOf (writeList first second) (writeRun first) (writeRun second) := by
    refine ⟨fun b hb => hfirst.not_isBracket hb, ?_⟩
    cases second with
    | nil => exact Or.inl ⟨by simp [writeList], rfl⟩
    | cons p ps =>
      refine Or.inr ⟨optionalText first (p :: ps), ?_, by simp [writeList], ?_⟩
      · exact fun b hb => not_isBracket_of_mem_optionalText hsecond hb
      · exact (dropSeparator_optionalText hsecond).symm
  exact parseArguments_eq_ok_iff.2
    ⟨_, _, first, second, hruns, parseRun_writeRun hfirst, parseRun_writeRun hsecond, rfl⟩

/-! ## §5 The text on the page -/

/-- The texts of arguments behind others. -/
def followers (ps : List Parameter) : Bytes := ps.flatMap fun p => bytes ", " ++ p.text

theorem writeRun_cons (p : Parameter) (ps : List Parameter) :
    writeRun (p :: ps) = p.text ++ followers ps := by
  rw [writeRun, List.map_cons, Bytes.join_cons, List.flatMap_map]
  rfl

theorem writeArguments_opened (n : Nat) (ps : List Parameter) :
    writeArguments false true (Session.numberArguments n ps) = followers ps ++ [byte ']'] := by
  induction ps generalizing n with
  | nil => rfl
  | cons p ps ih => simp [Session.numberArguments, writeArguments, ih, followers, Parameter.text]

theorem writeArguments_optional (first : Bool) (n : Nat) {ps : List Parameter}
    (hps : ∀ p ∈ ps, p.required = false) :
    writeArguments first false (Session.numberArguments n ps) =
      if ps.isEmpty then []
      else byte '[' :: ((if first then [] else bytes ", ") ++ writeRun ps ++ [byte ']']) := by
  cases ps with
  | nil => rfl
  | cons p ps =>
    have hp := hps p List.mem_cons_self
    simp [Session.numberArguments, writeArguments, hp, bytes_bracket, writeArguments_opened, writeRun_cons,
      Parameter.text]

theorem writeArguments_required (n : Nat) {first : List Parameter}
    (hfirst : ∀ p ∈ first, p.required = true) (second : List Parameter) :
    writeArguments false false (Session.numberArguments n (first ++ second)) =
      followers first ++
        writeArguments false false (Session.numberArguments (n + first.length) second) := by
  induction first generalizing n with
  | nil => rfl
  | cons p ps ih =>
    have hp := hfirst p List.mem_cons_self
    have hrest := ih (n + 1) fun q hq => hfirst q (List.mem_cons_of_mem _ hq)
    simp [Session.numberArguments, writeArguments, hp, hrest, followers, Parameter.text,
      Nat.add_assoc, Nat.add_comm 1]

/-- A page shows an argument list as two runs, the second in brackets. -/
theorem writeArguments_eq_writeList {first second : List Parameter}
    (hfirst : ∀ p ∈ first, p.required = true) (hsecond : ∀ p ∈ second, p.required = false) :
    writeArguments true false (Session.numberArguments 0 (first ++ second)) =
      writeList first second := by
  cases first with
  | nil =>
    rw [List.nil_append, writeArguments_optional true 0 hsecond]
    rfl
  | cons p ps =>
    have hp := hfirst p List.mem_cons_self
    have hps : ∀ q ∈ ps, q.required = true := fun q hq => hfirst q (List.mem_cons_of_mem _ hq)
    simp [Session.numberArguments, writeArguments, hp, writeArguments_required _ hps,
      writeArguments_optional false _ hsecond, writeList, optionalText, writeRun_cons, Parameter.text]

/-- Reading the arguments that a page shows for a list gives the arguments of that list. -/
theorem parseArguments_writeArguments {s : Bytes} {ps : List Parameter}
    (h : parseArguments s = .ok ps) :
    parseArguments (writeArguments true false (Session.numberArguments 0 ps)) = .ok ps := by
  obtain ⟨required, optional, first, second, hruns, hfirst, hsecond, rfl⟩ :=
    parseArguments_eq_ok_iff.1 h
  have hfirst := readable_of_parseRun hfirst hruns.1
  have hsecond := readable_of_parseRun hsecond hruns.optional_bytes
  rw [writeArguments_eq_writeList (fun p hp => (hfirst p hp).2.1) fun p hp => (hsecond p hp).2.1]
  exact parseArguments_writeList hfirst hsecond

/-! ## §6 Type unions -/

/-- The members of a union are trimmed, not empty, and hold no bar. -/
theorem parseTypes_eq_ok {s : Bytes} {types : List Bytes} (h : parseTypes s = .ok types) :
    types ≠ [] ∧ ∀ t ∈ types, t ≠ [] ∧ trim t = t ∧ ∀ b ∈ t, b ∈ s ∧ b ≠ byte '|' := by
  unfold parseTypes at h
  dsimp only at h
  split at h
  · simp at h
  next hempty =>
  obtain rfl := Except.ok.inj h
  refine ⟨by simpa using Bytes.splitOn_ne_nil _ _, fun t ht => ?_⟩
  have hne : t ≠ [] := fun hnil => hempty (List.any_eq_true.2 ⟨t, ht, by simp [hnil]⟩)
  obtain ⟨piece, hpiece, rfl⟩ := List.mem_map.1 ht
  refine ⟨hne, trim_trim piece, fun b hb => ?_⟩
  have hmem := mem_of_mem_trim hb
  constructor
  · rw [← Bytes.join_splitOn (byte '|') s]
    exact Bytes.mem_join_of_mem hpiece hmem
  · rintro rfl
    exact Bytes.notMem_of_mem_splitOn hpiece hmem

/-- A union joined with bars between spaces is read as the same union. -/
theorem parseTypes_join {s : Bytes} {types : List Bytes} (h : parseTypes s = .ok types) :
    parseTypes (Bytes.join (bytes " | ") types) = .ok types := by
  obtain ⟨hne, htypes⟩ := parseTypes_eq_ok h
  have hsplit : (Bytes.splitOn (byte '|') (Bytes.join (bytes " | ") types)).map trim = types := by
    refine map_trim_splitOn_join (by decide) (Or.inr rfl) hne fun t ht => ?_
    obtain ⟨-, htrim, hbytes⟩ := htypes t ht
    exact ⟨fun hbar => (hbytes _ hbar).2 rfl, htrim⟩
  have hany : types.any List.isEmpty = false :=
    List.any_eq_false.2 fun t ht => by simpa using (htypes t ht).1
  simp [parseTypes, hsplit, hany]

end DocPages
