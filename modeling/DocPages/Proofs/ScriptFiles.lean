import DocPages.Config.Validation
import DocPages.Generator
import DocPages.Proofs.DeclarationKeys
import DocPages.Proofs.DirectoryMaking
import DocPages.Proofs.Trimming

/-!
# Which Script Files Are Checked and Which Are Read

Settings are checked before a run, and the run reads the scripts later.  Both go through the list of
scripts name by name, but the check takes a name as it is given and the reader without the blanks around
it.  So the check vouches for what is read where both names lead to a file or neither does.  For a name
with blanks around it there are files with which it does not.

## Main results

- `FileSystem.NamesFile`, `FileSystem.isFile_iff`, `FileSystem.exists_read_iff`: one rule for both passes
- `Config.script?_problems`, `Generator.exists_load_script_iff`: what each of them finds
- `FileSystem.placeOf_trim_ne`: blanks around a name lead to another place
- `FileSystem.exists_told_apart`: files that tell a name from the one without blanks
- `scripts_checked_as_read_iff`
-/

namespace DocPages

/-! ## §1 Paths that name a file -/

namespace FileSystem

/-- The path leads to a file. -/
def NamesFile (fs : FileSystem) (path : Bytes) : Prop :=
  ∃ place content, fs.locate path = .ok place ∧ fs.node? place = some (.file content)

variable {fs : FileSystem} {path : Bytes}

theorem exists_read_iff : (∃ content, fs.read path = .ok content) ↔ fs.NamesFile path := by
  constructor
  · intro ⟨content, hread⟩
    exact ⟨fs.placeOf path, content, read_eq_ok_iff.1 hread⟩
  · intro ⟨place, content, hlocate, hnode⟩
    obtain rfl : place = fs.placeOf path := (locate_eq_ok_iff.1 hlocate).2.1
    exact ⟨content, read_eq_ok_iff.2 ⟨hlocate, hnode⟩⟩

/-- The check for a file asks whether it can be read. -/
theorem isFile_iff : fs.isFile path = true ↔ fs.NamesFile path := by
  rw [← exists_read_iff]
  unfold isFile read
  cases fs.stat path with
  | error fault => simp
  | ok node => cases node <;> simp

instance : Decidable (fs.NamesFile path) := decidable_of_iff _ isFile_iff

/-- What names a file is a path that can be followed, and a file is at its end. -/
theorem namesFile_iff :
    fs.NamesFile path ↔ fs.locate path = .ok (fs.placeOf path) ∧
      ∃ content, fs.node? (fs.placeOf path) = some (.file content) := by
  simp only [← exists_read_iff, read_eq_ok_iff, exists_and_left]

/-! ## §2 Blanks around a name -/

/-- A path that only goes down. -/
def GoesDown (path : Bytes) : Prop := ∀ n ∈ namesOf path, n ≠ Path.here ∧ n ≠ Path.above

instance : Decidable (GoesDown path) := inferInstanceAs (Decidable (∀ n ∈ namesOf path, _))

/-- The names of a path have all of its bytes but the slashes. -/
theorem flatten_namesOf (path : Bytes) : (namesOf path).flatten = path.filter (· != Path.separator) := by
  rw [namesOf, List.flatten_filter_not_isEmpty, Bytes.flatten_splitOn]

/-- Trimming removes no slash. -/
theorem exists_blanks_around (name : Bytes) :
    ∃ u v, name = u ++ trim name ++ v ∧ Path.separator ∉ u ∧ Path.separator ∉ v := by
  obtain ⟨u, v, hname, hblank⟩ := exists_eq_append_trim_append name
  have hslash : Path.separator ∉ u ++ v := fun hmem => absurd (hblank _ hmem) (by decide)
  rw [List.mem_append, not_or] at hslash
  exact ⟨u, v, hname, hslash⟩

/-- The names of a path with blanks around it are longer in all. -/
theorem length_namesOf_trim_lt {name : Bytes} (hne : trim name ≠ name) :
    (namesOf (trim name)).flatten.length < (namesOf name).flatten.length := by
  obtain ⟨u, v, hname, hu, hv⟩ := exists_blanks_around name
  have hkeep : ∀ w : Bytes, Path.separator ∉ w → w.filter (· != Path.separator) = w := by
    intro w hw
    apply List.filter_eq_self.2
    intro b hb
    simpa using ne_of_mem_of_not_mem hb hw
  have hmore : 0 < u.length + v.length := by
    by_contra hzero
    obtain rfl : u = [] := List.eq_nil_of_length_eq_zero (by omega)
    obtain rfl : v = [] := List.eq_nil_of_length_eq_zero (by omega)
    exact hne (by simpa using hname.symm)
  have hcount : (namesOf name).flatten =
      u ++ (trim name).filter (· != Path.separator) ++ v := by
    rw [flatten_namesOf]
    conv_lhs => rw [hname]
    rw [List.filter_append, List.filter_append, hkeep u hu, hkeep v hv]
  rw [hcount, flatten_namesOf]
  simp only [List.length_append]
  omega

/-- Blanks in front of an absolute path make it a relative one; other paths start where they did. -/
theorem startOf_trim (fs : FileSystem) {name : Bytes} (hnil : trim name ≠ []) :
    fs.startOf (trim name) = [] ∨ fs.startOf (trim name) = fs.startOf name := by
  cases habsolute : Path.isAbsolute (trim name) with
  | true => exact Or.inl (startOf_of_isAbsolute fs habsolute)
  | false =>
    right
    apply startOf_congr rfl
    obtain ⟨u, v, hname, hu, -⟩ := exists_blanks_around name
    rw [habsolute, hname]
    cases u with
    | nil =>
      obtain ⟨b, rest, hrest⟩ := List.exists_cons_of_ne_nil hnil
      simpa [Path.isAbsolute, hrest] using habsolute.symm
    | cons b u =>
      have hb : b ≠ Path.separator := fun hb => hu (by simp [hb])
      simpa [Path.isAbsolute] using hb

/-- Going down, blanks around a name lead to another place. -/
theorem placeOf_trim_ne (fs : FileSystem) {name : Bytes} (hdown : GoesDown name)
    (hdown' : GoesDown (trim name)) (hne : trim name ≠ name) (hnil : trim name ≠ []) :
    fs.placeOf (trim name) ≠ fs.placeOf name := by
  intro hplace
  rw [placeOf, placeOf, Place.along_names _ hdown, Place.along_names _ hdown'] at hplace
  have hlengths := congrArg (fun place : Place => place.flatten.length) hplace
  simp only [List.flatten_append, List.length_append] at hlengths
  have hlonger := length_namesOf_trim_lt hne
  rcases startOf_trim fs hnil with hstart | hstart
  · rw [hstart] at hlengths
    simp only [List.flatten_nil, List.length_nil] at hlengths
    omega
  · rw [hstart] at hlengths
    omega

/-- A directory that takes another place leaves a file where it is, with the way to it. -/
theorem NamesFile.put_directory (h : fs.NamesFile path) {place : Place} (hplace : place ≠ [])
    (hother : fs.placeOf path ≠ place) : (fs.put place .directory).NamesFile path := by
  obtain ⟨hlocate, content, hcontent⟩ := namesFile_iff.1 h
  obtain ⟨husable, -, hpass⟩ := locate_eq_ok_iff.1 hlocate
  have hput := node?_put fs hplace .directory
  have hkeep : ∀ p, fs.node? p = some .directory →
      (fs.put place .directory).node? p = some .directory := by
    intro p hp
    rw [hput]
    split
    · rfl
    · exact hp
  have hsame : (fs.put place .directory).placeOf path = fs.placeOf path := placeOf_congr rfl path
  apply namesFile_iff.2
  refine ⟨locate_eq_ok_iff.2 ⟨husable, rfl, hpass.mono hkeep⟩, content, ?_⟩
  rw [hsame, hput, if_neg hother, hcontent]

/-- Where the name without blanks leads to a file, a directory can take the place of the other. -/
theorem exists_told_apart {name : Bytes} (hwf : fs.WellFormed) (hfile : fs.NamesFile (trim name))
    (hdown : GoesDown name) (hdown' : GoesDown (trim name)) (hne : trim name ≠ name) :
    ∃ fs' : FileSystem, fs'.WellFormed ∧ fs'.NamesFile (trim name) ∧ ¬fs'.NamesFile name := by
  by_cases hname : fs.NamesFile name
  · obtain ⟨-, content, hcontent⟩ := namesFile_iff.1 hname
    have husable := (locate_eq_ok_iff.1 (namesFile_iff.1 hfile).1).1
    have hfree : fs.node? (fs.placeOf name) ≠ some .directory := by simp [hcontent]
    have hplace := ne_nil_of_node? fs hfree
    have hother := placeOf_trim_ne fs hdown hdown' hne husable.ne_nil
    refine ⟨fs.put (fs.placeOf name) .directory, ?_, hfile.put_directory hplace hother, ?_⟩
    · exact hwf.put hplace (hwf.node?_dropLast (by simp [hcontent])) hfree _
    · intro hname'
      obtain ⟨-, content, hcontent⟩ := namesFile_iff.1 hname'
      have hsame : (fs.put (fs.placeOf name) .directory).placeOf name = fs.placeOf name :=
        placeOf_congr rfl name
      rw [hsame, node?_put fs hplace, if_pos rfl] at hcontent
      cases hcontent
  · exact ⟨fs, hwf, hfile, hname⟩

end FileSystem

/-! ## §3 What the check reports -/

/-- The script that a problem is about. -/
def Config.Problem.script? : Config.Problem → Option Bytes
  | .missingScript path => some path
  | _ => none

namespace Config

variable {c : Config} {fs : FileSystem}

theorem script?_inputProblems (hne : c.scripts ≠ []) :
    (c.inputProblems fs).filterMap Problem.script? =
      c.scripts.filter fun name => ¬fs.NamesFile name := by
  have hreadme : (if c.readme.isEmpty then [Problem.noReadme]
      else if fs.isFile c.readme then [] else [.missingReadme c.readme]).filterMap
        Problem.script? = [] := by
    split
    · rfl
    · split <;> rfl
  have hscripts : c.scripts.isEmpty = false := by simpa using hne
  rw [inputProblems, List.filterMap_append, hreadme, List.append_nil, hscripts]
  show ((c.missingScripts fs).map Problem.missingScript).filterMap Problem.script? = _
  rw [List.filterMap_map]
  show (c.missingScripts fs).filterMap some = _
  rw [List.filterMap_some, missingScripts]
  refine List.filter_congr fun name _ => ?_
  simp [← FileSystem.isFile_iff]

theorem script?_outputProblems : (c.outputProblems fs).filterMap Problem.script? = [] := by
  unfold outputProblems
  split
  · rfl
  · split <;> rfl

theorem script?_otherProblems : (c.otherProblems fs).filterMap Problem.script? = [] := by
  have hone : ∀ (p : Prop) [Decidable p] (x : Problem), Problem.script? x = none →
      (if p then [] else [x]).filterMap Problem.script? = [] := by
    intro p _ x hx
    split <;> simp [hx]
  unfold otherProblems
  simp only [List.filterMap_append]
  rw [hone _ _ rfl, hone _ _ rfl, hone _ _ rfl]
  split <;> split <;> rfl

/-- A check of settings reports the scripts that, as they are given, name no file. -/
theorem script?_problems (hne : c.scripts ≠ []) :
    (c.problems fs).filterMap Problem.script? =
      c.scripts.filter (fun name => ¬fs.NamesFile name) ∧
    (c.previewProblems fs).filterMap Problem.script? =
      c.scripts.filter fun name => ¬fs.NamesFile name := by
  simp [problems, previewProblems, List.filterMap_append, script?_inputProblems hne,
    script?_outputProblems, script?_otherProblems]

theorem problems_of_validate (h : c.validate fs = .ok ()) : c.problems fs = [] := by
  cases hfound : c.problems fs with
  | nil => rfl
  | cons problem more => simp [validate, refuse, hfound] at h

theorem missingScript_mem_problems_iff (hne : c.scripts ≠ []) {name : Bytes} :
    Problem.missingScript name ∈ c.problems fs ↔ name ∈ c.scripts ∧ ¬fs.NamesFile name := by
  have hmem : Problem.missingScript name ∈ c.problems fs ↔
      name ∈ (c.problems fs).filterMap Problem.script? := by
    rw [List.mem_filterMap]
    constructor
    · intro h
      exact ⟨_, h, rfl⟩
    · intro ⟨problem, h, hscript⟩
      cases problem <;> simp_all [Problem.script?]
  rw [hmem, (script?_problems hne).1]
  simp

end Config

/-! ## §4 What the reader finds -/

namespace Generator

theorem exists_loadScript_ok_iff {fs : FileSystem} {name : Bytes} :
    (∃ script, loadScript fs name = .ok script) ↔ fs.NamesFile (trim name) := by
  rw [← FileSystem.exists_read_iff]
  unfold loadScript
  cases fs.read (trim name) <;> simp

theorem exists_loadScript_error_iff {fs : FileSystem} {name : Bytes} :
    (∃ cause, loadScript fs name = .error cause) ↔ ¬fs.NamesFile (trim name) := by
  rw [← exists_loadScript_ok_iff]
  cases loadScript fs name <;> simp

/-- Reading the scripts fails when one of them, without the blanks around it, names no file. -/
theorem exists_load_script_iff {config : Config} {fs : FileSystem} :
    (∃ cause, load config fs = .error (.script cause)) ↔
      ∃ name ∈ config.scripts, ¬fs.NamesFile (trim name) := by
  have hread : (∃ cause, load config fs = .error (.script cause)) ↔
      ¬∃ scripts, config.scripts.mapM (loadScript fs) = .ok scripts := by
    unfold load
    cases config.scripts.mapM (loadScript fs) with
    | error cause => simp
    | ok scripts =>
      cases fs.read config.readme with
      | error cause => simp
      | ok readme => cases Templates.load fs config.template <;> simp
  rw [hread, exists_mapM_eq_ok_iff]
  simp only [exists_loadScript_ok_iff, not_forall, exists_prop]

end Generator

/-! ## §5 The two passes together -/

/-- **Scripts are checked as they are read**, up to blanks.  A check reports the entries that name no
    file as they are given, in their order.  It agrees with the reader about an entry exactly when the
    entry names a file with and without the blanks around it, or in neither way.  If that is so for all
    entries, settings that pass do not fail when the scripts are read, and scripts that can be read are
    not reported.  For paths that only go down and may name a file, this holds with all files and
    directories exactly if no entry has blanks around it. -/
theorem scripts_checked_as_read_iff (c : Config) (hne : c.scripts ≠ []) :
    (∀ fs : FileSystem,
      (c.problems fs).filterMap Config.Problem.script? =
        c.scripts.filter (fun name => ¬fs.NamesFile name) ∧
      (c.previewProblems fs).filterMap Config.Problem.script? =
        c.scripts.filter fun name => ¬fs.NamesFile name) ∧
    (∀ fs : FileSystem, ∀ name ∈ c.scripts,
      (Config.Problem.missingScript name ∈ c.problems fs ↔
        ∃ cause, Generator.loadScript fs name = .error cause) ↔
      (fs.NamesFile name ↔ fs.NamesFile (trim name))) ∧
    (∀ fs : FileSystem, (∀ name ∈ c.scripts, fs.NamesFile name ↔ fs.NamesFile (trim name)) →
      (c.validate fs = .ok () → ∀ cause, Generator.load c fs ≠ .error (.script cause)) ∧
      ((∀ cause, Generator.load c fs ≠ .error (.script cause)) →
        ∀ path, Config.Problem.missingScript path ∉ c.problems fs)) ∧
    ((∀ name ∈ c.scripts, FileSystem.GoesDown name ∧ FileSystem.GoesDown (trim name) ∧
        ∃ fs : FileSystem, fs.WellFormed ∧ fs.NamesFile (trim name)) →
      ((∀ fs : FileSystem, fs.WellFormed →
          ∀ name ∈ c.scripts, fs.NamesFile name ↔ fs.NamesFile (trim name)) ↔
        ∀ name ∈ c.scripts, trim name = name)) := by
  refine ⟨fun fs => Config.script?_problems hne, ?_, ?_, ?_⟩
  · intro fs name hname
    rw [Config.missingScript_mem_problems_iff hne, Generator.exists_loadScript_error_iff]
    simp [hname, not_iff_not]
  · intro fs hagree
    constructor
    · intro hvalid cause hload
      obtain ⟨name, hname, hnone⟩ := Generator.exists_load_script_iff.1 ⟨cause, hload⟩
      have hreported := (Config.missingScript_mem_problems_iff hne).2
        ⟨hname, fun hfile => hnone ((hagree name hname).1 hfile)⟩
      rw [Config.problems_of_validate hvalid] at hreported
      cases hreported
    · intro hload path hreported
      obtain ⟨hpath, hnone⟩ := (Config.missingScript_mem_problems_iff hne).1 hreported
      obtain ⟨cause, hcause⟩ := Generator.exists_load_script_iff.2
        ⟨path, hpath, fun hfile => hnone ((hagree path hpath).2 hfile)⟩
      exact hload cause hcause
  · intro hpaths
    constructor
    · intro hagree name hname
      obtain ⟨hdown, hdown', fs, hwf, hfile⟩ := hpaths name hname
      by_contra hblank
      obtain ⟨fs', hwf', hfile', hnone⟩ := FileSystem.exists_told_apart hwf hfile hdown hdown' hblank
      exact hnone ((hagree fs' hwf' name hname).2 hfile')
    · intro htrimmed fs _ name hname
      rw [htrimmed name hname]

/-- Where a file has the name with the blank as well, both passes are content, and still there are files
    on which they differ. -/
theorem padded_script_beside_its_twin :
    let c : Config := ⟨[bytes "a.js", bytes " b.js"], bytes "r", bytes "o", [], [], 1, false,
      bytes "info", bytes "text", bytes ":1"⟩
    let fs : FileSystem := ⟨[([bytes "a.js"], .file []), ([bytes "b.js"], .file []),
      ([bytes " b.js"], .file []), ([bytes "r"], .file []), ([bytes "o"], .directory)], []⟩
    c.scripts ≠ [] ∧ c.validate fs = .ok () ∧
      (∀ cause, Generator.load c fs ≠ .error (.script cause)) ∧
      ¬∀ fs : FileSystem, fs.WellFormed →
        ∀ name ∈ c.scripts, fs.NamesFile name ↔ fs.NamesFile (trim name) := by
  intro c fs
  have hne : c.scripts ≠ [] := by decide
  have hvalid : c.validate fs = .ok () := by decide
  have hagree : ∀ name ∈ c.scripts, fs.NamesFile name ↔ fs.NamesFile (trim name) := by decide
  have hwf : fs.WellFormed := by decide
  have hpaths : ∀ name ∈ c.scripts, FileSystem.GoesDown name ∧ FileSystem.GoesDown (trim name) ∧
      fs.NamesFile (trim name) := by decide
  obtain ⟨-, -, hfiles, hall⟩ := scripts_checked_as_read_iff c hne
  refine ⟨hne, hvalid, (hfiles fs hagree).1 hvalid, fun hagrees => ?_⟩
  have htrimmed := (hall fun name hname => ⟨(hpaths name hname).1, (hpaths name hname).2.1, fs, hwf,
    (hpaths name hname).2.2⟩).1 hagrees
  exact absurd (htrimmed (bytes " b.js") (by decide)) (by decide)

/-- A script that can be read is reported, and one that cannot be read passes. -/
theorem padded_script_misjudged :
    let c : Config := ⟨[bytes " a.js"], bytes "r", bytes "o", [], [], 1, false,
      bytes "info", bytes "text", bytes ":1"⟩
    let files : Bytes → FileSystem := fun name =>
      ⟨[([name], .file (bytes "x")), ([bytes "r"], .file []), ([bytes "o"], .directory)], []⟩
    (c.validate (files (bytes "a.js")) = .error [.missingScript (bytes " a.js")] ∧
      Generator.loadScript (files (bytes "a.js")) (bytes " a.js") = .ok ⟨bytes "a.js", bytes "x"⟩) ∧
    c.validate (files (bytes " a.js")) = .ok () ∧
      Generator.load c (files (bytes " a.js")) =
        .error (.script ⟨bytes "open", bytes "a.js", .notExist⟩) := by
  decide

end DocPages
