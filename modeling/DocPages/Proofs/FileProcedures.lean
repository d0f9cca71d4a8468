import DocPages.Proofs.Runs

/-!
# Procedures on Files

A procedure accesses files one after the other, and which access comes next may depend on the answers
so far.  It has no other way to see or change the files, so carrying it out shows every access that it
makes, in order.  A function on file systems that is carried out by a procedure therefore reads and
writes when the procedure does.

## Main definitions

- `Access`, `Procedure`, `Procedure.run`
- `Procedure.Within`: a procedure that makes allowed accesses only
- `Procedure.Carries`: a procedure that carries out a planned list of reading accesses, as far as they
  succeed

## Main results

- `Procedure.run_bind`: the accesses of one procedure after another
- `Procedure.Carries.andThen`: reading in order, as long as it succeeds
- `Publish.run_writeProcedure`, `Publish.within_writeProcedure`: writing a site, and what it accesses
- `Publish.carries_checkProcedure`: comparing a site with its files
-/

namespace DocPages

/-! ## §1 Accesses -/

/-- One access to the files. -/
inductive Access where
  | read (path : Bytes)
  | list (path : Bytes)
  | makeDirectories (path : Bytes)
  | write (path content : Bytes)
  deriving DecidableEq, Repr

namespace Access

/-- What an access answers. -/
abbrev Answer : Access → Type
  | .read _ => Except FileError Bytes
  | .list _ => Except FileError (List (Bytes × Node))
  | .makeDirectories _ => Option FileError
  | .write _ _ => Option FileError

/-- The files after an access, and its answer. -/
def perform (fs : FileSystem) : (a : Access) → FileSystem × a.Answer
  | .read path => (fs, fs.read path)
  | .list path => (fs, fs.names path)
  | .makeDirectories path => fs.makeDirectories path
  | .write path content =>
    match fs.write path content with
    | .ok fs' => (fs', none)
    | .error cause => (fs, some cause)

/-- Whether an access only reads. -/
def isReading : Access → Bool
  | .read _ => true
  | .list _ => true
  | .makeDirectories _ => false
  | .write _ _ => false

end Access

/-! ## §2 Procedures -/

/-- A procedure on files. -/
inductive Procedure (α : Type) where
  | done (result : α)
  | access (a : Access) (next : a.Answer → Procedure α)

namespace Procedure

variable {α β ε ε' : Type} {fs : FileSystem}

/-- One procedure after another. -/
def bind (p : Procedure α) (f : α → Procedure β) : Procedure β :=
  match p with
  | .done a => f a
  | .access a next => .access a fun answer => (next answer).bind f

/-- Carries out a procedure: the accesses in order, the files afterwards, and the result. -/
def run (fs : FileSystem) : Procedure α → List Access × FileSystem × α
  | .done result => ([], fs, result)
  | .access a next =>
    let (accesses, last) := (next (a.perform fs).2).run (a.perform fs).1
    (a :: accesses, last)

@[simp] theorem run_done (fs : FileSystem) (result : α) :
    (Procedure.done result).run fs = ([], fs, result) := rfl

@[simp] theorem run_access (fs : FileSystem) (a : Access) (next : a.Answer → Procedure α) :
    (Procedure.access a next).run fs =
      (a :: ((next (a.perform fs).2).run (a.perform fs).1).1,
        ((next (a.perform fs).2).run (a.perform fs).1).2) := rfl

/-- The accesses of the first procedure come before those of the second. -/
theorem run_bind (p : Procedure α) (f : α → Procedure β) (fs : FileSystem) :
    (p.bind f).run fs =
      ((p.run fs).1 ++ ((f (p.run fs).2.2).run (p.run fs).2.1).1,
        ((f (p.run fs).2.2).run (p.run fs).2.1).2) := by
  induction p generalizing fs with
  | done a => simp [bind]
  | access a next ih => simp [bind, ih]

/-- A procedure that makes allowed accesses only, whatever they answer. -/
def Within (allowed : Access → Prop) : Procedure α → Prop
  | .done _ => True
  | .access a next => allowed a ∧ ∀ answer, (next answer).Within allowed

namespace Within

variable {allowed : Access → Prop} {p : Procedure α} {f : α → Procedure β}

theorem bind (hp : p.Within allowed) (hf : ∀ a, (f a).Within allowed) : (p.bind f).Within allowed := by
  induction p with
  | done a => exact hf a
  | access a next ih => exact ⟨hp.1, fun answer => ih answer (hp.2 answer)⟩

theorem allowed_of_mem (hp : p.Within allowed) (fs : FileSystem) (a : Access)
    (ha : a ∈ (p.run fs).1) : allowed a := by
  induction p generalizing fs with
  | done result => simp at ha
  | access first next ih =>
    rcases List.mem_cons.1 ha with rfl | ha
    · exact hp.1
    · exact ih _ (hp.2 _) _ ha

end Within

/-! ## §3 Reading in order -/

/-- Goes on with the result of a procedure, unless it failed. -/
def andThen (p : Procedure (Except ε α)) (fail : ε → ε') (next : α → Procedure (Except ε' β)) :
    Procedure (Except ε' β) :=
  p.bind fun
    | .error e => .done (.error (fail e))
    | .ok a => next a

/-- A procedure that comes to a result, leaves the files as they are, and on the way makes planned
    accesses: all of them if it succeeds, and the first ones in any case. -/
structure Carries (p : Procedure (Except ε α)) (fs : FileSystem) (planned : List Access)
    (result : Except ε α) : Prop where
  outcome : (p.run fs).2 = (fs, result)
  begins : (p.run fs).1 <+: planned
  complete : ∀ a, result = .ok a → (p.run fs).1 = planned

theorem Carries.andThen {p : Procedure (Except ε α)} {planned planned' : List Access}
    {result : Except ε α} {next : α → Procedure (Except ε' β)} {result' : α → Except ε' β}
    (hp : p.Carries fs planned result) (fail : ε → ε')
    (hnext : ∀ a, result = .ok a → (next a).Carries fs planned' (result' a)) :
    (p.andThen fail next).Carries fs (planned ++ planned') ((result.mapError fail).bind result') := by
  have hrun := run_bind p (fun
    | .error e => .done (.error (fail e))
    | .ok a => next a) fs
  rw [hp.outcome] at hrun
  cases result with
  | error e =>
    simp only [run_done, List.append_nil] at hrun
    refine ⟨congrArg Prod.snd hrun, ?_, fun a h => by cases h⟩
    exact (congrArg Prod.fst hrun) ▸ hp.begins.trans (List.prefix_append _ _)
  | ok a =>
    have hlast := hnext a rfl
    simp only [hp.complete a rfl] at hrun
    refine ⟨(congrArg Prod.snd hrun).trans hlast.outcome, ?_, fun b h => ?_⟩
    · exact (congrArg Prod.fst hrun) ▸ (List.prefix_append_right_inj _).2 hlast.begins
    · exact (congrArg Prod.fst hrun).trans (by rw [hlast.complete b h])

theorem carries_done (fs : FileSystem) (result : Except ε α) :
    (Procedure.done result).Carries fs [] result :=
  ⟨rfl, List.prefix_rfl, fun _ _ => rfl⟩

theorem carries_read (fs : FileSystem) (path : Bytes) :
    (Procedure.access (.read path) .done).Carries fs [.read path] (fs.read path) :=
  ⟨rfl, List.prefix_rfl, fun _ _ => rfl⟩

theorem carries_list (fs : FileSystem) (path : Bytes) :
    (Procedure.access (.list path) .done).Carries fs [.list path] (fs.names path) :=
  ⟨rfl, List.prefix_rfl, fun _ _ => rfl⟩

/-- Reads files in turn until one fails, and makes something of each. -/
def readEach (path : α → Bytes) (make : α → Bytes → β) :
    List α → Procedure (Except FileError (List β))
  | [] => .done (.ok [])
  | x :: rest =>
    (Procedure.access (.read (path x)) .done).andThen id fun text =>
      (readEach path make rest).andThen id fun more => .done (.ok (make x text :: more))

theorem carries_readEach (path : α → Bytes) (make : α → Bytes → β) (fs : FileSystem)
    (xs : List α) :
    (readEach path make xs).Carries fs (xs.map fun x => .read (path x))
      (xs.mapM fun x => (fs.read (path x)).map (make x)) := by
  induction xs with
  | nil => exact carries_done fs _
  | cons x rest ih =>
    have hcarries := (carries_read fs (path x)).andThen id fun text _ =>
      ih.andThen id fun more _ => carries_done fs (.ok (make x text :: more))
    have hmapM : ((x :: rest).mapM fun x => (fs.read (path x)).map (make x)) =
        ((fs.read (path x)).mapError id).bind fun text =>
          ((rest.mapM fun x => (fs.read (path x)).map (make x)).mapError id).bind fun more =>
            .ok (make x text :: more) := by
      rw [List.mapM_cons]
      cases fs.read (path x) with
      | error cause => rfl
      | ok text => cases rest.mapM fun x => (fs.read (path x)).map (make x) <;> rfl
    rw [List.append_nil] at hcarries
    rw [hmapM]
    exact hcarries

end Procedure

/-! ## §4 Publishing -/

namespace Publish

open Procedure

/-- Whether a given content was found in a file. -/
def agrees (content : Bytes) : Except FileError Bytes → Bool
  | .ok found => found = content
  | .error _ => false

/-- Writes a page unless its file holds the same bytes. -/
def writePageProcedure (dir : Bytes) (page : Page) : Procedure (Except Error Bool) :=
  match pagePath dir page.path with
  | .error e => .done (.error e)
  | .ok path =>
    .access (.read path) fun found =>
      match agrees page.content found with
      | true => .done (.ok false)
      | false =>
        .access (.makeDirectories (Path.directory path)) fun
          | some cause => .done (.error (.pageDirectory page.path cause))
          | none =>
            .access (.write path page.content) fun
              | some cause => .done (.error (.writing page.path cause))
              | none => .done (.ok true)

/-- Writes pages in turn until one fails. -/
def writePagesProcedure (dir : Bytes) (stats : Stats) :
    List Page → Procedure (List Log.Record × Except Error Stats)
  | [] => .done ([], .ok stats)
  | page :: rest =>
    (writePageProcedure dir page).bind fun
      | .error e => .done ([], .error e)
      | .ok true =>
        (writePagesProcedure dir { stats with written := stats.written + 1 } rest).bind
          fun (records, result) => .done (wrotePage page :: records, result)
      | .ok false => writePagesProcedure dir { stats with unchanged := stats.unchanged + 1 } rest

/-- Writes a site. -/
def writeProcedure (cancelled : Bool) (dir : Bytes) (pages : List Page) :
    Procedure (List Log.Record × Except Error Stats) :=
  match firstUnsafe? pages with
  | some page => .done ([], .error (.unsafePath page.path))
  | none =>
    .access (.makeDirectories dir) fun
      | some cause => .done ([], .error (.outputDirectory cause))
      | none =>
        if cancelled && !pages.isEmpty then .done ([], .error .cancelled)
        else
          (writePagesProcedure dir ⟨0, 0⟩ pages).bind fun
            | (records, .error e) => .done (records, .error e)
            | (records, .ok stats) => .done (records ++ [wroteSite dir stats], .ok stats)

theorem run_writePageProcedure (dir : Bytes) (page : Page) (fs : FileSystem) :
    ((writePageProcedure dir page).run fs).2 = writePage dir fs page := by
  unfold writePageProcedure writePage
  cases pagePath dir page.path with
  | error e => rfl
  | ok path =>
    have hholds : fs.holds path page.content = agrees page.content (fs.read path) := rfl
    simp only [run_access, Access.perform, hholds]
    cases agrees page.content (fs.read path) with
    | true => rfl
    | false =>
      simp only [Bool.false_eq_true, if_false, run_access, Access.perform]
      rcases fs.makeDirectories (Path.directory path) with ⟨fs', _ | cause⟩
      · simp only [run_access, Access.perform]
        cases fs'.write path page.content with
        | error cause => rfl
        | ok fs'' => rfl
      · rfl

theorem run_writePagesProcedure (dir : Bytes) (stats : Stats) (pages : List Page)
    (fs : FileSystem) :
    ((writePagesProcedure dir stats pages).run fs).2 = writePages dir fs stats pages := by
  induction pages generalizing stats fs with
  | nil => rfl
  | cons page rest ih =>
    simp only [writePagesProcedure, writePages, run_bind, run_writePageProcedure]
    rcases writePage dir fs page with ⟨fs', e | written⟩
    · rfl
    · cases written with
      | true => simp only [run_bind, run_done, ih]
      | false => exact ih _ _

/-- Writing a site is carried out by its procedure. -/
theorem run_writeProcedure (cancelled : Bool) (dir : Bytes) (pages : List Page)
    (fs : FileSystem) :
    ((writeProcedure cancelled dir pages).run fs).2 = write cancelled dir pages fs := by
  unfold writeProcedure write
  cases firstUnsafe? pages with
  | some page => rfl
  | none =>
    simp only [run_access, Access.perform]
    rcases fs.makeDirectories dir with ⟨fs', _ | cause⟩
    · cases cancelled && !pages.isEmpty with
      | true => rfl
      | false =>
        simp only [Bool.false_eq_true, if_false, run_bind, run_writePagesProcedure]
        rcases writePages dir fs' ⟨0, 0⟩ pages with ⟨fs'', records, e | stats⟩
        · rfl
        · rfl
    · rfl

/-- What writing a site may access: the output directory, and the files of its pages with their
    directories.  Nothing but the content of a page is written. -/
inductive Touches (dir : Bytes) (pages : List Page) : Access → Prop where
  | output : Touches dir pages (.makeDirectories dir)
  | compare {page : Page} {target : Bytes} (hpage : page ∈ pages)
      (htarget : pagePath dir page.path = .ok target) : Touches dir pages (.read target)
  | prepare {page : Page} {target : Bytes} (hpage : page ∈ pages)
      (htarget : pagePath dir page.path = .ok target) :
      Touches dir pages (.makeDirectories (Path.directory target))
  | store {page : Page} {target : Bytes} (hpage : page ∈ pages)
      (htarget : pagePath dir page.path = .ok target) :
      Touches dir pages (.write target page.content)

theorem within_writePageProcedure {dir : Bytes} {pages : List Page} {page : Page}
    (hpage : page ∈ pages) : (writePageProcedure dir page).Within (Touches dir pages) := by
  unfold writePageProcedure
  cases htarget : pagePath dir page.path with
  | error e => trivial
  | ok path =>
    refine ⟨.compare hpage htarget, fun found => ?_⟩
    dsimp only
    cases agrees page.content found with
    | true => trivial
    | false =>
      refine ⟨.prepare hpage htarget, fun made => ?_⟩
      cases made with
      | some cause => trivial
      | none =>
        refine ⟨.store hpage htarget, fun written => ?_⟩
        cases written with
        | some cause => trivial
        | none => trivial

theorem within_writePagesProcedure {dir : Bytes} {pages rest : List Page} (hrest : rest ⊆ pages)
    (stats : Stats) : (writePagesProcedure dir stats rest).Within (Touches dir pages) := by
  induction rest generalizing stats with
  | nil => trivial
  | cons page rest ih =>
    obtain ⟨hpage, hrest⟩ := List.cons_subset.1 hrest
    refine (within_writePageProcedure hpage).bind fun result => ?_
    rcases result with e | written
    · trivial
    · cases written with
      | true => exact (ih hrest _).bind fun _ => trivial
      | false => exact ih hrest _

theorem within_writeProcedure (cancelled : Bool) (dir : Bytes) (pages : List Page) :
    (writeProcedure cancelled dir pages).Within (Touches dir pages) := by
  unfold writeProcedure
  cases firstUnsafe? pages with
  | some page => trivial
  | none =>
    refine ⟨.output, fun made => ?_⟩
    cases made with
    | some cause => trivial
    | none =>
      cases cancelled && !pages.isEmpty with
      | true => trivial
      | false =>
        refine (within_writePagesProcedure (List.Subset.refl pages) _).bind fun outcome => ?_
        rcases outcome with ⟨records, e | stats⟩
        · trivial
        · trivial

/-! ## §5 Comparing -/

/-- The access that comparing a page makes. -/
def pageReads (dir : Bytes) (page : Page) : List Access :=
  match pagePath dir page.path with
  | .error _ => []
  | .ok path => [.read path]

theorem isReading_of_mem_pageReads {dir : Bytes} {pages : List Page} (a : Access)
    (ha : a ∈ pages.flatMap (pageReads dir)) : a.isReading = true := by
  obtain ⟨page, -, ha⟩ := List.mem_flatMap.1 ha
  unfold pageReads at ha
  split at ha
  · cases ha
  · obtain rfl := List.mem_singleton.1 ha
    rfl

/-- The diff between what was found in a page's file and the page, unless they agree. -/
def diffFrom? (page : Page) : Except FileError Bytes → Except Error (Option Bytes)
  | .ok old =>
    .ok (if old = page.content then none
      else some (Diff.unified (bytes "a/" ++ page.path) (bytes "b/" ++ page.path) old page.content))
  | .error cause =>
    if cause.fault = .notExist then
      .ok (some (Diff.unified (bytes "/dev/null") (bytes "b/" ++ page.path) [] page.content))
    else .error (.reading page.path cause)

/-- Compares a page with its file. -/
def pageDiffProcedure (dir : Bytes) (page : Page) : Procedure (Except Error (Option Bytes)) :=
  match pagePath dir page.path with
  | .error e => .done (.error e)
  | .ok path => .access (.read path) fun found => .done (diffFrom? page found)

/-- Compares pages in turn until one cannot be read. -/
def diffsProcedure (dir : Bytes) : List Page → Procedure (Except Error (List Bytes))
  | [] => .done (.ok [])
  | page :: rest =>
    (pageDiffProcedure dir page).andThen id fun found =>
      (diffsProcedure dir rest).andThen id fun more => .done (.ok (found.toList ++ more))

/-- What is said of the diffs of a site. -/
def verdict : List Bytes → Except Error Unit
  | [] => .ok ()
  | found => .error (.outOfDate found)

/-- Compares a site with its files. -/
def checkProcedure (dir : Bytes) (pages : List Page) : Procedure (Except Error Unit) :=
  (diffsProcedure dir pages).andThen id fun found => .done (verdict found)

theorem carries_pageDiffProcedure (dir : Bytes) (page : Page) (fs : FileSystem) :
    (pageDiffProcedure dir page).Carries fs (pageReads dir page) (pageDiff? dir fs page) := by
  have hdiff : pageDiff? dir fs page =
      (pagePath dir page.path).bind fun path => diffFrom? page (fs.read path) := by
    unfold pageDiff?
    cases pagePath dir page.path with
    | error e => rfl
    | ok path =>
      dsimp only [Except.bind]
      cases fs.read path with
      | error cause => rfl
      | ok old => rfl
  rw [hdiff, pageDiffProcedure, pageReads]
  cases pagePath dir page.path with
  | error e => exact carries_done fs _
  | ok path => exact ⟨rfl, List.prefix_rfl, fun _ _ => rfl⟩

theorem carries_diffsProcedure (dir : Bytes) (pages : List Page) (fs : FileSystem) :
    (diffsProcedure dir pages).Carries fs (pages.flatMap (pageReads dir)) (diffs dir fs pages) := by
  induction pages with
  | nil => exact carries_done fs _
  | cons page rest ih =>
    have hcarries := (carries_pageDiffProcedure dir page fs).andThen id fun found _ =>
      ih.andThen id fun more _ => carries_done fs (.ok (found.toList ++ more))
    have hdiffs : diffs dir fs (page :: rest) =
        ((pageDiff? dir fs page).mapError id).bind fun found =>
          ((diffs dir fs rest).mapError id).bind fun more => .ok (found.toList ++ more) := by
      rw [diffs]
      cases pageDiff? dir fs page with
      | error e => rfl
      | ok found => cases diffs dir fs rest <;> rfl
    rw [List.append_nil] at hcarries
    rw [List.flatMap_cons, hdiffs]
    exact hcarries

/-- Checking a site is carried out by its procedure, which reads the files of the pages. -/
theorem carries_checkProcedure (dir : Bytes) (pages : List Page) (fs : FileSystem) :
    (checkProcedure dir pages).Carries fs (pages.flatMap (pageReads dir)) (check dir fs pages) := by
  have hcarries := (carries_diffsProcedure dir pages fs).andThen id fun found _ =>
    carries_done fs (verdict found)
  have hcheck : check dir fs pages = ((diffs dir fs pages).mapError id).bind verdict := by
    unfold check
    rcases diffs dir fs pages with e | _ | ⟨text, more⟩ <;> rfl
  rw [List.append_nil] at hcarries
  rw [hcheck]
  exact hcarries

end Publish

end DocPages
