import DocPages.Proofs.ArgumentText

/-!
# The Grammar of Argument Lists

An argument list is a run of required arguments, or such a run and a run of optional ones in brackets
with a separator in front.  A run is empty or a list of tokens with commas between them.  This is the
whole grammar: a text that it derives is read as the arguments of its tokens, and every other text is
refused.

The grammar is ambiguous, since what stands behind the opening bracket may belong to the separator or to
the first token.  It does not matter: a run whose first token takes in a blank has the same arguments
without the blank, and a run that begins with a comma has an empty token.

## Main results

- `TokenRun`, `ArgumentList`: the grammar, with the arguments of what it derives
- `parseRun_eq_ok_iff`: a run is read when the grammar derives it
- `parseRun_dropSeparator`: a separator may be dropped from a run that can be read
- `parseArguments_eq_ok_iff_argumentList`: a list is read when the grammar derives it
- `argument_lists_split_exactly`: with that, the refusal of all other texts
-/

namespace DocPages

/-! ## §1 Runs of tokens -/

/-- A run and its arguments: an empty run has none; any other run is made of tokens with commas between
    them, and each token, trimmed, is one argument. -/
inductive TokenRun (required : Bool) : Bytes → List Parameter → Prop where
  | empty : TokenRun required [] []
  | tokens {tokens : List Bytes} {ps : List Parameter} (hne : tokens ≠ [])
      (hcomma : ∀ token ∈ tokens, byte ',' ∉ token)
      (hread : List.Forall₂ (fun token p => parseArgument required (trim token) = .ok p ∧
        p.required = required) tokens ps) :
      TokenRun required (Bytes.join (bytes ",") tokens) ps

/-- An empty token is no argument, so no arguments come from tokens that begin with one. -/
theorem not_read_nil_cons {required : Bool} {tokens : List Bytes} {ps : List Parameter} :
    ¬List.Forall₂ (fun token p => parseArgument required (trim token) = .ok p) ([] :: tokens) ps := by
  intro h
  have hnil : parseArgument required (trim []) = .error (.argument []) := rfl
  obtain ⟨p, _, hp, -, -⟩ := List.forall₂_cons_left_iff.1 h
  simp [hnil] at hp

theorem parseRun_of_ne_nil {required : Bool} {run : Bytes} (hne : run ≠ []) {ps : List Parameter} :
    parseRun required run = .ok ps ↔
      List.Forall₂ (fun token p => parseArgument required (trim token) = .ok p)
        (Bytes.splitOn (byte ',') run) ps := by
  rw [parseRun, if_neg (by simpa using hne), mapM_eq_ok_iff]

theorem parseRun_eq_ok_iff {required : Bool} {run : Bytes} {ps : List Parameter} :
    parseRun required run = .ok ps ↔ TokenRun required run ps := by
  constructor
  · intro h
    rcases parseRun_eq_ok h with ⟨rfl, rfl⟩ | ⟨-, -, hall⟩
    · exact .empty
    · rw [← Bytes.join_splitOn (byte ',') run, ← bytes_comma]
      apply TokenRun.tokens
      · exact Bytes.splitOn_ne_nil _ _
      · exact fun token htoken => Bytes.notMem_of_mem_splitOn htoken
      · exact hall.imp fun token p hp => ⟨hp, (parseArgument_cases hp).1⟩
  · intro h
    cases h with
    | empty => rfl
    | @tokens tokens ps hne hcomma hread =>
      have hsplit : Bytes.splitOn (byte ',') (Bytes.join (bytes ",") tokens) = tokens := by
        rw [bytes_comma]
        exact Bytes.splitOn_join hne hcomma
      have hrun : Bytes.join (bytes ",") tokens ≠ [] := by
        -- tokens that join to nothing are one empty token
        intro hnil
        rw [hnil] at hsplit
        obtain rfl : tokens = [[]] := hsplit.symm
        exact not_read_nil_cons (hread.imp fun token p hp => hp.1)
      rw [parseRun_of_ne_nil hrun, hsplit]
      exact hread.imp fun token p hp => hp.1

/-! ## §2 Separators -/

section Separators

variable {required : Bool} {run : Bytes} {ps : List Parameter}

/-- A run that can be read does not begin with a comma. -/
theorem trimPrefix_comma_of_parseRun (h : parseRun required run = .ok ps) :
    Bytes.trimPrefix (bytes ",") run = run := by
  rcases Bytes.trimPrefix_cases (bytes ",") run with heq | heq
  · generalize Bytes.trimPrefix (bytes ",") run = rest at heq
    subst heq
    have hsplit : Bytes.splitOn (byte ',') (bytes "," ++ rest) = [] :: Bytes.splitOn (byte ',') rest := by
      simp [bytes_comma, Bytes.splitOn]
    rw [parseRun_of_ne_nil (by simp [bytes_comma]), hsplit] at h
    exact absurd h not_read_nil_cons
  · exact heq

/-- A blank in front of a run that can be read makes no difference. -/
theorem parseRun_of_space_cons (h : parseRun required (byte ' ' :: run) = .ok ps) :
    parseRun required run = .ok ps := by
  have hspace : byte ' ' ≠ byte ',' := by decide
  rw [parseRun_of_ne_nil (by simp)] at h
  have htrimmed : List.Forall₂ (fun token p => parseArgument required token = .ok p)
      ((Bytes.splitOn (byte ',') run).map trim) ps := by
    rw [← map_trim_splitOn_space_cons hspace]
    exact List.forall₂_map_left_iff.2 h
  have hrun : List.Forall₂ (fun token p => parseArgument required (trim token) = .ok p)
      (Bytes.splitOn (byte ',') run) ps := List.forall₂_map_left_iff.1 htrimmed
  have hne : run ≠ [] := by
    -- a lone blank is an empty token
    rintro rfl
    exact not_read_nil_cons hrun
  exact (parseRun_of_ne_nil hne).2 hrun

theorem parseRun_trimPrefix_space (h : parseRun required run = .ok ps) :
    parseRun required (Bytes.trimPrefix (bytes " ") run) = .ok ps := by
  rcases Bytes.trimPrefix_cases (bytes " ") run with heq | heq
  · generalize Bytes.trimPrefix (bytes " ") run = rest at heq
    subst heq
    rw [bytes_space] at h
    exact parseRun_of_space_cons h
  · rw [heq, h]

/-- A run that can be read behind a separator is still read when everything is dropped that may be taken
    for a separator. -/
theorem parseRun_dropSeparator {sep : Bytes} (hsep : sep ∈ separators)
    (h : parseRun required run = .ok ps) :
    parseRun required (dropSeparator (sep ++ run)) = .ok ps := by
  simp only [separators, List.mem_cons, List.not_mem_nil, or_false] at hsep
  rcases hsep with rfl | rfl | rfl | rfl
  · -- the run is its own beginning, which is no comma and may be a blank
    rw [List.nil_append, dropSeparator, trimPrefix_comma_of_parseRun h]
    exact parseRun_trimPrefix_space h
  · exact parseRun_trimPrefix_space h
  · exact h
  · exact h

end Separators

/-! ## §3 Lists -/

/-- A list and its arguments: the required ones of a run, or those of a run and the optional ones of a
    second run in brackets, which a separator may open.  Neither run holds a bracket. -/
inductive ArgumentList : Bytes → List Parameter → Prop where
  | plain {run : Bytes} {ps : List Parameter} (hrun : ∀ b ∈ run, isBracket b = false)
      (hps : TokenRun true run ps) : ArgumentList run ps
  | bracketed {required sep optional : Bytes} {first second : List Parameter}
      (hrequired : ∀ b ∈ required, isBracket b = false)
      (hoptional : ∀ b ∈ optional, isBracket b = false) (hsep : sep ∈ separators)
      (hfirst : TokenRun true required first) (hsecond : TokenRun false optional second) :
      ArgumentList (required ++ bytes "[" ++ sep ++ optional ++ bytes "]") (first ++ second)

/-- A list is read as the arguments that the grammar derives with it. -/
theorem parseArguments_eq_ok_iff_argumentList {s : Bytes} {ps : List Parameter} :
    parseArguments s = .ok ps ↔ ArgumentList s ps := by
  rw [parseArguments_eq_ok_iff]
  constructor
  · rintro ⟨required, optional, first, second, hruns, hfirst, hsecond, rfl⟩
    rw [parseRun_eq_ok_iff] at hfirst hsecond
    have hoptional := hruns.optional_bytes
    rcases hruns with ⟨hrequired, ⟨rfl, rfl⟩ | ⟨inner, -, rfl, rfl⟩⟩
    · -- nothing stands in brackets, and nothing is optional
      obtain rfl : [] = second := Except.ok.inj (parseRun_eq_ok_iff.2 hsecond)
      rw [List.append_nil]
      exact .plain hrequired hfirst
    · obtain ⟨sep, hsep, hinner⟩ := dropSeparator_cases inner
      have hlist : required ++ byte '[' :: (inner ++ [byte ']']) =
          required ++ bytes "[" ++ sep ++ dropSeparator inner ++ bytes "]" := by
        conv_lhs => rw [hinner]
        simp [bytes_bracket]
      rw [hlist]
      exact .bracketed hrequired hoptional hsep hfirst hsecond
  · intro h
    cases h with
    | plain hrun hps =>
      refine ⟨s, [], ps, [], ⟨hrun, Or.inl ⟨rfl, rfl⟩⟩, parseRun_eq_ok_iff.2 hps, rfl, ?_⟩
      rw [List.append_nil]
    | @bracketed required sep optional first second hrequired hoptional hsep hfirst hsecond =>
      have hinner : ∀ b ∈ sep ++ optional, isBracket b = false := by
        have hall : separators.all (fun sep => sep.all fun b => !isBracket b) = true := by decide
        intro b hb
        rcases List.mem_append.1 hb with hb | hb
        · simpa using List.all_eq_true.1 (List.all_eq_true.1 hall sep hsep) b hb
        · exact hoptional b hb
      have hruns : RunsOf (required ++ bytes "[" ++ sep ++ optional ++ bytes "]") required
          (dropSeparator (sep ++ optional)) :=
        ⟨hrequired, Or.inr ⟨sep ++ optional, hinner, by simp [bytes_bracket], rfl⟩⟩
      exact ⟨_, _, first, second, hruns, parseRun_eq_ok_iff.2 hfirst,
        parseRun_dropSeparator hsep (parseRun_eq_ok_iff.2 hsecond), rfl⟩

/-- **Argument lists are split exactly.**  A text is read as a list of arguments iff it is `R`, or
    `R[sep O]` with a separator that is nothing, a comma, a space or both, where neither `R` nor `O` holds
    a bracket and each is empty or made of tokens between commas that are arguments when trimmed.  It is
    read as the arguments of the tokens of `R`, all required, and then of those of `O`, all optional, one
    for each token and in their order.  Every other text is refused as a malformed signature. -/
theorem argument_lists_split_exactly (s : Bytes) :
    (∀ ps, parseArguments s = .ok ps ↔ ArgumentList s ps) ∧
      ((¬∃ ps, ArgumentList s ps) →
        ∃ e detail, parseArguments s = .error e ∧
          e.message = bytes "malformed signature: " ++ detail) := by
  refine ⟨fun ps => parseArguments_eq_ok_iff_argumentList, fun hnone => ?_⟩
  cases hs : parseArguments s with
  | ok ps => exact absurd ⟨ps, parseArguments_eq_ok_iff_argumentList.1 hs⟩ hnone
  | error e =>
    obtain ⟨detail, hdetail⟩ := e.message_eq
    exact ⟨e, detail, rfl, hdetail⟩

/-- A list with blanks, commas and a default in all allowed places is read, and the same list with a blank
    behind the closing bracket is not, although its brackets are balanced. -/
theorem blank_behind_brackets_refused :
    let s := bytes "a , b[,  c = 1 ,d]"
    ArgumentList s [⟨bytes "a", true, []⟩, ⟨bytes "b", true, []⟩, ⟨bytes "c", false, bytes "1"⟩,
        ⟨bytes "d", false, []⟩] ∧
      bracketsBalanced (s ++ bytes " ") = true ∧ (¬∃ ps, ArgumentList (s ++ bytes " ") ps) ∧
      ∃ e detail, parseArguments (s ++ bytes " ") = .error e ∧
        e.message = bytes "malformed signature: " ++ detail := by
  intro s
  have hrefused : parseArguments (s ++ bytes " ") = .error (.argumentList (s ++ bytes " ")) := by decide
  have hnone : ¬∃ ps, ArgumentList (s ++ bytes " ") ps := by
    rintro ⟨ps, hps⟩
    rw [((argument_lists_split_exactly _).1 ps).2 hps] at hrefused
    exact absurd hrefused (by simp)
  refine ⟨((argument_lists_split_exactly s).1 _).1 (by decide), by decide, hnone, ?_⟩
  exact (argument_lists_split_exactly _).2 hnone

end DocPages
