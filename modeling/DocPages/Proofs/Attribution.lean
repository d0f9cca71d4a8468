import DocPages.Proofs.Readings

/-!
# Attribution of Prose and Argument Notes

Prose and argument notes belong to the entity that the most recent declaration of their block
opened.  The readings at which an entity was open are its segment: its text is the prose of the
segment, and an argument has what the last note of the segment about its name says, unless an earlier
argument has the same name.

## Main results

- `segment`, `proseOf`, `notesOf`, `Annotated`: what the lines say of an entity
- `Signature.annotated_annotateFirst`: one more note, one more annotation
- `Transcript.Attributed`, `Transcript.run_attributed`: entities of a run say what their lines say
- `prose_and_notes_attributed`: attribution for every accepted list of scripts
-/

namespace DocPages

/-! ## §1 Segments -/

/-- The lines of `rs`, read after `past`, at which the entity `h` was open. -/
def segmentAfter (h : Handle) (past : List Reading) : List Reading → List Reading
  | [] => []
  | r :: rest =>
    if openAt past r.place = some h then r :: segmentAfter h (past ++ [r]) rest
    else segmentAfter h (past ++ [r]) rest

/-- The lines for which the most recent declaration of their block is one that opened `h`. -/
def segment (rs : List Reading) (h : Handle) : List Reading := segmentAfter h [] rs

theorem segmentAfter_snoc (h : Handle) (past rs : List Reading) (r : Reading) :
    segmentAfter h past (rs ++ [r]) = segmentAfter h past rs ++
      if openAt (past ++ rs) r.place = some h then [r] else [] := by
  induction rs generalizing past with
  | nil => simp [segmentAfter]
  | cons r' rest ih =>
    simp only [List.cons_append, segmentAfter, ih, List.append_assoc]
    split <;> rfl

theorem segment_snoc (rs : List Reading) (r : Reading) (h : Handle) :
    segment (rs ++ [r]) h = segment rs h ++ if openAt rs r.place = some h then [r] else [] :=
  segmentAfter_snoc h [] rs r

/-- What is open at a place was opened by a line. -/
theorem exists_opened_of_openAt {past : List Reading} {p : BlockPlace} {h : Handle}
    (hopen : openAt past p = some h) : ∃ r ∈ past, latest past p = some r ∧ r.opened = some h := by
  obtain ⟨r, hlatest, hopened⟩ := Option.bind_eq_some_iff.1 hopen
  exact ⟨r, List.mem_reverse.1 (List.mem_of_find?_eq_some hlatest), hlatest, hopened⟩

theorem segment_eq_nil {rs : List Reading} {h : Handle} (hrs : ∀ r ∈ rs, r.opened ≠ some h) :
    segment rs h = [] := by
  induction rs using List.reverseRecOn with
  | nil => rfl
  | append_singleton rs r ih =>
    have hbefore : ∀ r' ∈ rs, r'.opened ≠ some h :=
      fun r' hr' => hrs r' (List.mem_append_left _ hr')
    rw [segment_snoc, ih hbefore, if_neg]
    · rfl
    · intro hopen
      obtain ⟨r', hr', -, hopened⟩ := exists_opened_of_openAt hopen
      exact hbefore r' hr' hopened

/-! ## §2 What lines say -/

/-- The text that a line adds to a description. -/
def Line.proseText : Line → Bytes
  | .prose text => text ++ [0x0A]
  | _ => []

/-- The argument note of a line. -/
def Line.note? : Line → Option ArgumentNote
  | .noteLine n => some n
  | _ => none

/-- The prose of some lines, in order and with a newline after each. -/
def proseOf (rs : List Reading) : Bytes := rs.flatMap fun r => r.line.proseText

/-- The argument notes among some lines. -/
def notesOf (rs : List Reading) : List ArgumentNote := rs.filterMap fun r => r.line.note?

/-- What notes say of an argument: the last one about its name counts, but only for the first
    argument of that name. -/
def remark (notes : List ArgumentNote) (earlier : List Argument) (name : Bytes) :
    List Bytes × Bytes :=
  if earlier.any fun a => a.name = name then ([], [])
  else
    match notes.reverse.find? fun n => n.name = name with
    | some n => (n.types, n.description)
    | none => ([], [])

/-- The arguments have what the notes say of them. -/
def Annotated (notes : List ArgumentNote) (arguments : List Argument) : Prop :=
  ∀ i a, arguments[i]? = some a →
    (a.types, a.description) = remark notes (arguments.take i) a.name

namespace Signature

theorem annotateFirst_map_name (n : ArgumentNote) (arguments : List Argument) :
    (annotateFirst n arguments).map Argument.name = arguments.map Argument.name := by
  induction arguments with
  | nil => rfl
  | cons a rest ih =>
    unfold annotateFirst
    split <;> simp [ih]

/-- A note changes the first argument of its name and no other. -/
theorem annotateFirst_getElem? (n : ArgumentNote) (arguments : List Argument) (i : Nat) :
    (annotateFirst n arguments)[i]? = arguments[i]?.map fun a =>
      if a.name = n.name ∧ ¬ ((arguments.take i).any fun b => b.name = n.name) = true then
        { a with types := n.types, description := n.description }
      else a := by
  induction arguments generalizing i with
  | nil => simp [annotateFirst]
  | cons a rest ih =>
    unfold annotateFirst
    by_cases hname : a.name = n.name
    · -- the head is the one that changes, and it hides every later argument of its name
      rw [if_pos hname]
      cases i with
      | zero => simp [hname]
      | succ i => simp [hname]
    · rw [if_neg hname]
      cases i with
      | zero => simp [hname]
      | succ i => simp [ih, hname]

/-- A note about a name that no argument has changes nothing. -/
theorem annotateFirst_of_argument? {s : Signature} {n : ArgumentNote}
    (h : s.argument? n.name = none) : annotateFirst n s.arguments = s.arguments := by
  have hnone : ∀ a ∈ s.arguments, a.name ≠ n.name := by simpa [argument?] using h
  refine List.ext_getElem? fun i => ?_
  rw [annotateFirst_getElem?]
  cases ha : s.arguments[i]? with
  | none => rfl
  | some a => simp [hnone a (List.mem_of_getElem? ha)]

/-- One more note, one more annotation. -/
theorem annotated_annotateFirst {notes : List ArgumentNote} {arguments : List Argument}
    (h : Annotated notes arguments) (n : ArgumentNote) :
    Annotated (notes ++ [n]) (annotateFirst n arguments) := by
  intro i a' ha'
  rw [annotateFirst_getElem?] at ha'
  obtain ⟨a, ha, hrevised⟩ := Option.map_eq_some_iff.1 ha'
  have hold := h i a ha
  -- earlier arguments count by their names alone, and a note keeps all names
  have hearlier : ∀ name : Bytes,
      (((annotateFirst n arguments).take i).any fun b => b.name = name) =
        (arguments.take i).any fun b => b.name = name := by
    intro name
    have hnames := congrArg (fun names => (names.take i).any (· = name))
      (annotateFirst_map_name n arguments)
    simpa only [← List.map_take, List.any_map, Function.comp_def] using hnames
  unfold remark at hold ⊢
  rw [List.reverse_append, List.reverse_singleton, List.singleton_append, List.find?_cons]
  by_cases hname : a.name = n.name
  · cases hany : (arguments.take i).any fun b => b.name = n.name with
    | true =>
      -- hidden behind an earlier argument of its name: no note reaches it
      obtain rfl : a = a' := by simpa [hname, hany] using hrevised
      simpa [hearlier, hname, hany] using hold
    | false =>
      -- the first of its name: the new note is now the last one about it
      have hrevised' : { a with types := n.types, description := n.description } = a' := by
        simpa [hname, hany] using hrevised
      subst hrevised'
      simp [hearlier, hname, hany]
  · -- an argument of another name: the new note is not about it
    obtain rfl : a = a' := by simpa [hname] using hrevised
    simpa [hearlier, Ne.symm hname] using hold

end Signature

/-! ## §3 What a line does to text and arguments -/

/-- A line adds its prose to the entity that it revises. -/
theorem Line.revise_text (l : Line) (e : Entity) : (l.revise e).text = e.text ++ l.proseText := by
  cases l with
  | prose text => simp [revise, Entity.appendLine, proseText]
  | noteLine n =>
    simp only [revise, proseText, List.append_nil]
    split
    · rfl
    · cases hb : e.body <;> simp [Entity.withSignature, hb]
  | constructorLine d => cases hb : e.body <;> simp [revise, Entity.addAlias, proseText, hb]
  | _ => simp [revise, proseText]

/-- A line annotates the arguments of the entity that it revises with its note. -/
theorem Line.revise_signature? (l : Line) (e : Entity) :
    (l.revise e).signature? = e.signature?.map fun s => { s with
      arguments := l.note?.elim s.arguments fun n => Signature.annotateFirst n s.arguments } := by
  cases l with
  | noteLine n =>
    simp only [revise, note?, Option.elim_some]
    cases hsignature : e.signature? with
    | none => simp [hsignature]
    | some s =>
      cases hargument : s.argument? n.name with
      | none =>
        simp [Signature.annotate?, hargument, hsignature,
          Signature.annotateFirst_of_argument? hargument]
      | some a =>
        cases hb : e.body <;>
          simp_all [Signature.annotate?, Entity.withSignature, Entity.signature?]
  | constructorLine d =>
    cases hb : e.body <;> simp [revise, Entity.addAlias, Entity.signature?, note?, hb]
  | _ => simp [revise, note?, Entity.signature?, Entity.appendLine]

/-- A note about a name that no argument has leaves the entity as it is. -/
theorem Line.revise_eq_self {n : ArgumentNote} {e : Entity}
    (h : ∀ s, e.signature? = some s → s.argument? n.name = none) :
    (Line.noteLine n).revise e = e := by
  cases hsignature : e.signature? with
  | none => simp [revise, hsignature]
  | some s => simp [revise, hsignature, Signature.annotate?, h s hsignature]

namespace Session

variable {s : Session} {l : Line} {source : Bytes} {number : Nat} {x : Handle}

/-- Prose goes to the open entity. -/
theorem step_text (hx : x < s.tree.store.size) :
    ((s.step l source number).tree.entity x).text =
      (s.tree.entity x).text ++ if s.current = some x then l.proseText else [] := by
  rw [Entity.text_eq_of_bare (step_bare hx)]
  cases hkey : l.key? with
  | none =>
    simp only [target, hkey]
    split
    · exact l.revise_text _
    · simp
  | some key =>
    -- a declaration has no prose, whatever it revises
    have hprose : l.proseText = [] := by
      cases l <;> simp_all [Line.key?, Line.proseText, Line.declaration?]
    split <;> simp [Line.revise_text, hprose]

/-- Notes go to the open entity. -/
theorem step_signature? (hx : x < s.tree.store.size) :
    ((s.step l source number).tree.entity x).signature? =
      (s.tree.entity x).signature?.map fun sig => { sig with
        arguments := if s.current = some x then
            l.note?.elim sig.arguments fun n => Signature.annotateFirst n sig.arguments
          else sig.arguments } := by
  rw [Entity.signature?_eq_of_bare (step_bare hx)]
  cases hkey : l.key? with
  | none =>
    simp only [target, hkey]
    split
    · exact l.revise_signature? _
    · simp
  | some key =>
    have hnote : l.note? = none := by
      cases l <;> simp_all [Line.key?, Line.note?, Line.declaration?]
    split <;> simp [Line.revise_signature?, hnote]

/-- The arguments of a new entity have no annotations yet. -/
theorem annotated_numberArguments (n : Nat) (parameters : List Parameter) :
    Annotated [] (numberArguments n parameters) := by
  have hempty : ∀ a ∈ numberArguments n parameters, a.types = [] ∧ a.description = [] := by
    induction parameters generalizing n with
    | nil => simp [numberArguments]
    | cons p rest ih =>
      rw [numberArguments]
      exact List.forall_mem_cons.2 ⟨⟨rfl, rfl⟩, ih (n + 1)⟩
  intro i a ha
  obtain ⟨htypes, hdescription⟩ := hempty a (List.mem_of_getElem? ha)
  simp [remark, htypes, hdescription]

theorem annotated_newEntity {key : Bytes} {sig : Signature}
    (h : (s.newEntity l source number key).signature? = some sig) : Annotated [] sig.arguments := by
  cases l <;> simp only [newEntity, newBody, Entity.signature?, Option.some.injEq, reduceCtorEq] at h
  all_goals
    subst h
    exact annotated_numberArguments 0 _

end Session

/-! ## §4 Runs -/

namespace Transcript

/-- The entities of the tree, displaced ones included, say what the lines of their segments say. -/
structure Attributed (g : Transcript) : Prop where
  text : ∀ h < g.session.tree.store.size, (g.session.tree.entity h).text = proseOf (segment g.past h)
  arguments : ∀ h < g.session.tree.store.size, ∀ s, (g.session.tree.entity h).signature? = some s →
    Annotated (notesOf (segment g.past h)) s.arguments

namespace Attributed

variable {g : Transcript}

theorem pause (hg : g.Attributed) {g' : Transcript} (hp : g.Pauses g') : g'.Attributed := by
  obtain ⟨product, htree⟩ := hp.tree
  refine ⟨?_, ?_⟩
  · rw [htree, hp.past]
    exact hg.text
  · rw [htree, hp.past]
    exact hg.arguments

theorem read (hg : g.Attributed) (ht : g.Tracks) (source : Bytes) (number : Nat) (l : Line) :
    (g.read source number l).Attributed := by
  have hsegment : ∀ h, segment (g.read source number l).past h = segment g.past h ++
      if g.session.current = some h then [g.reading source number l] else [] := by
    intro h
    rw [ht.current]
    exact segment_snoc g.past _ h
  -- what the line makes was never open
  have hnew : segment (g.read source number l).past g.session.tree.store.size = [] := by
    have hunopened : ∀ r ∈ g.past, r.opened ≠ some g.session.tree.store.size :=
      fun r hr hopened => Nat.lt_irrefl _ (ht.stored r hr _ hopened)
    rw [hsegment, segment_eq_nil hunopened, if_neg]
    · rfl
    · intro hcurrent
      obtain ⟨r, hr, -, hopened⟩ := exists_opened_of_openAt (ht.current.symm.trans hcurrent)
      exact hunopened r hr hopened
  refine ⟨?_, ?_⟩
  · intro h hlt
    rcases Session.lt_or_created hlt with hlt | ⟨rfl, key, hcreated⟩
    · refine (Session.step_text hlt).trans ?_
      rw [hg.text h hlt, hsegment]
      split <;> simp [proseOf, reading]
    · rw [hnew]
      exact Entity.text_eq_of_bare (Session.step_bare_new hcreated)
  · intro h hlt s hs
    rcases Session.lt_or_created hlt with hlt | ⟨rfl, key, hcreated⟩
    · obtain ⟨sig, hsig, rfl⟩ :=
        Option.map_eq_some_iff.1 ((Session.step_signature? hlt).symm.trans hs)
      have hold := hg.arguments h hlt sig hsig
      rw [hsegment]
      split
      · -- the entity is open: a note counts as the last one of its segment
        cases hnote : l.note? with
        | none => simpa [notesOf, reading, hnote] using hold
        | some n =>
          simpa [notesOf, reading, hnote] using Signature.annotated_annotateFirst hold n
      · simpa using hold
    · rw [hnew]
      change ((g.session.step l source number).tree.entity _).signature? = some s at hs
      rw [Entity.signature?_eq_of_bare (Session.step_bare_new hcreated)] at hs
      exact Session.annotated_newEntity hs

end Attributed

theorem start_attributed : Transcript.start.Attributed where
  text _ hlt := absurd hlt (Nat.not_lt_zero _)
  arguments _ hlt := absurd hlt (Nat.not_lt_zero _)

/-- At every point of every run the entities say what their lines say. -/
theorem run_attributed (es : List Event) : (Transcript.start.run es).Attributed :=
  run_of_tracks start_attributed (fun _ source number l ht _ hg => hg.read ht source number l)
    (fun _ _ hp hg => hg.pause hp) es

end Transcript

/-! ## §5 Lines without effect -/

/-- Lines that say nothing about the tree, read after `past`: prose and notes with no declaration
    before them in their block, notes after a class, and notes about an unknown argument. -/
inductive Idle (past : List Reading) (r : Reading) : Prop where
  | unopened : r.line.key? = none → latest past r.place = none → Idle past r
  | afterClass {n : ArgumentNote} {r₀ : Reading} {key : Bytes} : r.line = .noteLine n →
      latest past r.place = some r₀ → r₀.line = .classLine key → Idle past r
  | unknownArgument {n : ArgumentNote} {h : Handle} : r.line = .noteLine n →
      openAt past r.place = some h →
      (∀ s, (r.before.tree.entity h).signature? = some s → s.argument? n.name = none) → Idle past r

/-- A note that no argument of the open entity has a name for changes nothing. -/
theorem Reading.after_tree_of_note {r : Reading} {n : ArgumentNote} (hline : r.line = .noteLine n)
    (hnone : ∀ h, r.before.current = some h →
      ∀ s, (r.before.tree.entity h).signature? = some s → s.argument? n.name = none) :
    r.after.tree = r.before.tree := by
  unfold Reading.after
  rw [hline, (r.before.step_note r.source r.number n).1]
  cases hcurrent : r.before.current with
  | none => rfl
  | some h => exact r.before.tree.modify_eq_self (Line.revise_eq_self (hnone h hcurrent))

/-- At every point of a run an idle line leaves the tree as it is. -/
theorem Transcript.Tracks.after_tree_of_idle {past : List Reading} {r : Reading}
    (ht : (⟨r.place, r.before, past⟩ : Transcript).Tracks) (hr : Idle past r) :
    r.after.tree = r.before.tree := by
  have hcurrent : r.before.current = openAt past r.place := ht.current
  cases hr with
  | unopened hkey hlatest =>
    have hclosed : r.before.current = none := by rw [hcurrent, openAt, hlatest]; rfl
    rcases r.before.step_cases r.line r.source r.number with ⟨key, hsome, -⟩ | ⟨-, -, htree, -⟩
    · simp [hkey] at hsome
    · unfold Reading.after
      simpa [Session.target, hkey, hclosed] using htree
  | @afterClass n r₀ key hline hlatest hclass =>
    refine Reading.after_tree_of_note hline fun h hopen s hs => ?_
    obtain ⟨r', hr', hlatest', hopened⟩ := exists_opened_of_openAt (hcurrent.symm.trans hopen)
    obtain rfl : r₀ = r' := Option.some.inj (hlatest.symm.trans hlatest')
    -- a class has no signature that could hold an argument
    have hisClass : (r.before.tree.entity h).isClass = true :=
      ht.classes r₀ hr' key hclass h hopened
    cases hb : (r.before.tree.entity h).body <;>
      simp [Entity.isClass, Entity.signature?, hb] at hisClass hs
  | @unknownArgument n h hline hopen hnone =>
    refine Reading.after_tree_of_note hline fun h' hopen' => ?_
    obtain rfl : h = h' := Option.some.inj (hopen.symm.trans (hcurrent.symm.trans hopen'))
    exact hnone

/-- **Attribution**: the readings are the lines inside the blocks, in source order.  The text of an
    indexed entity is the prose of the lines whose most recent declaration in the block is its
    surviving declaration or a constructor line merged into it, its arguments have what the notes
    among these lines say, and idle lines change nothing. -/
theorem prose_and_notes_attributed (scripts : List Script) (t : Tree)
    (hparse : (parseScripts scripts).1 = .ok t) :
    List.Forall₂ Reading.Reads (readings scripts) (placedLines 0 scripts) ∧
    (∀ k h, t.lookup? k = some h →
      (∃ pre r post, Surviving (readings scripts) k h pre r post) ∧
      (t.entity h).text = proseOf (segment (readings scripts) h) ∧
      ∀ s, (t.entity h).signature? = some s →
        Annotated (notesOf (segment (readings scripts) h)) s.arguments) ∧
    ∀ pre r post, readings scripts = pre ++ r :: post → Idle pre r →
      r.after.tree = r.before.tree := by
  obtain ⟨htree, hreadable⟩ := parseScripts_eq_ok hparse
  have hsession : t = (Transcript.start.run (events scripts)).session.tree := by
    rw [Transcript.run_session]
    exact htree
  refine ⟨readings_eq_blockLines hreadable, ?_, ?_⟩
  · intro k h hk
    subst hsession
    have hattributed := Transcript.run_attributed (events scripts)
    have hlt := ((Transcript.run_tracks (events scripts)).nested.invariant.stored k h hk).1
    exact ⟨Transcript.run_declared (events scripts) k h hk, hattributed.text h hlt,
      hattributed.arguments h hlt⟩
  · intro pre r post hsplit hidle
    obtain ⟨-, es, hes⟩ := Transcript.exists_run_of_split (events scripts) hsplit
    exact Transcript.Tracks.after_tree_of_idle (hes ▸ Transcript.run_tracks es) hidle

/-- A constructor with two arguments of one name, whose class is declared again and into which a line
    of another script is merged: it has the prose of both places, and of its arguments the first has
    the later note. -/
theorem attribution_across_merge :
    let scripts : List Script :=
      [⟨bytes "a.js", bytes "/*?\nstray\nclass Foo\nnew Foo(x, x)\none\n- x (T) - first\n**/"⟩,
        ⟨bytes "b.js",
          bytes "/*?\nclass Foo\nabout\n**/\n/*?\ncreateFoo(y)\ntwo\n- x (U) - second\n**/"⟩]
    let arguments : List Argument :=
      [⟨bytes "x", true, 0, [], [bytes "U"], bytes "second"⟩, ⟨bytes "x", true, 1, [], [], []⟩]
    ∃ t, (parseScripts scripts).1 = .ok t ∧ t.lookup? (bytes "new Foo") = some 1 ∧
      proseOf (segment (readings scripts) 1) = bytes "one\n\ntwo\n\n" ∧
      Annotated (notesOf (segment (readings scripts) 1)) arguments := by
  intro scripts arguments
  have hview : (parseScripts scripts).1.toOption.map
        (fun t => (t.lookup? (bytes "new Foo"), t.entity 1)) =
      some (some 1, ⟨bytes "new Foo", bytes "one\n\ntwo\n\n", bytes "a.js", 4,
        .constructorBody ⟨bytes "Foo", arguments, [bytes "Foo"]⟩
          [bytes "new Foo", bytes "createFoo"]⟩) := by
    decide
  obtain ⟨t, hparse, hentity⟩ := exists_tree_of_view hview
  obtain ⟨hlookup, hentity⟩ := Prod.mk.inj hentity
  obtain ⟨-, hprose, hnotes⟩ := (prose_and_notes_attributed scripts t hparse).2.1 _ 1 hlookup
  rw [hentity] at hprose hnotes
  exact ⟨t, hparse, hlookup, hprose.symm, hnotes _ rfl⟩

end DocPages
