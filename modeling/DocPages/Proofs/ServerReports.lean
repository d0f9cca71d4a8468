import DocPages.Proofs.JsonReading
import DocPages.Server

/-!
# What a Server Reports

A build and the entities of a tree are sent as JSON.  What a client reads from that is given here as a
value, field by field, and the written reports are shown to be read as these values.

## Main definitions

- `Build.report`, `Tree.listing`, `errorReport`: what is reported, as values
- `Http.Response.Carries`: a response from which a value is read

## Main results

- `Build.reads_json`, `Tree.reads_entitiesJson`: what is written stands for these values
- `Http.carries_json`, `Http.carries_errorResponse`: responses that carry them
-/

namespace DocPages

open Json (Value Reads MemberReads legible)
open Http (jsonText jsonNumber)

/-! ## §1 Reports -/

/-- What a build has counted, and the errors it met. -/
def Progress.report (p : Progress) : Value :=
  .object [(bytes "scripts", .number p.scripts), (bytes "entities", .number p.entities),
    (bytes "pages", .number p.pages), (bytes "written", .number p.written),
    (bytes "unchanged", .number p.unchanged), (bytes "broken_links", .number p.brokenLinks),
    (bytes "errors", .array (p.errors.map fun e => .text (legible e)))]

/-- The report of a build: its number, how far it has come, what it has counted, the digest of its result
    if there is one, and its times. -/
def Build.report (times : BuildTimes) (b : Build) : Value :=
  .object ([(bytes "build_id", .number b.number), (bytes "status", .text (legible b.status.name)),
      (bytes "phase", .text (legible b.phase)), (bytes "progress", b.progress.report)]
    ++ (if b.digest = [] then [] else [(bytes "digest", .text (legible b.digest))])
    ++ [(bytes "created_at", .text (legible (times b.number).1)),
      (bytes "updated_at", .text (legible (times b.number).2))])

/-- The key of the class that owns an entity; empty without one. -/
def Tree.classKey (t : Tree) (e : Entity) : Bytes := ((t.owner? e.key).map fun c => (t.entity c).key).getD []

/-- An entry in a list of entities. -/
def Tree.entry (t : Tree) (e : Entity) : Value :=
  .object ([(bytes "key", .text (legible e.key)), (bytes "kind", .text (legible e.kind.name)),
      (bytes "href", .text (legible (href e.key)))]
    ++ (if t.classKey e = [] then [] else [(bytes "class_key", .text (legible (t.classKey e)))])
    ++ [(bytes "source_name", .text (legible e.source)), (bytes "source_line", .number e.line)])

/-- The list of the entities of a tree, in their order, all or those of the kind with a name. -/
def Tree.listing (t : Tree) (kind : Bytes) : Value :=
  .object [(bytes "entities", .array (((t.entities.map t.entity).filter fun e =>
      kind = [] ∨ e.kind.name = kind).map t.entry)),
    (bytes "product", .text (legible t.product))]

/-- The report of an error. -/
def errorReport (message : Bytes) : Value := .object [(bytes "error", .text (legible message))]

/-- A response carries a value when it is of the type of JSON, has no tag, and the value is read from its
    body. -/
structure Http.Response.Carries (response : Http.Response) (status : Nat) (v : Value) : Prop where
  status_eq : response.status = status
  type_eq : response.contentType = bytes "application/json"
  untagged : response.entityTag = []
  read : Json.readLine response.body = some v

/-! ## §2 Written reports -/

theorem Http.reads_jsonText (s : Bytes) : Reads (jsonText s) (.text (legible s)) := by
  have hstyle : Http.jsonStyle.malformed = bytes "\uFFFD" := by decide
  exact Json.reads_text hstyle s

theorem Http.reads_jsonNumber (n : Int) : Reads (jsonNumber n) (.number n) := Json.reads_number n

theorem Json.memberReads {name : String} (hname : Json.Plain (bytes name)) {x : Bytes} {v : Value}
    (h : Reads x v) : MemberReads (name, x) (bytes name, v) := ⟨hname, rfl, h⟩

theorem Http.memberReads_text {name : String} (hname : Json.Plain (bytes name)) (s : Bytes) :
    MemberReads (name, jsonText s) (bytes name, .text (legible s)) :=
  Json.memberReads hname (Http.reads_jsonText s)

theorem Http.memberReads_number {name : String} (hname : Json.Plain (bytes name)) (n : Int) :
    MemberReads (name, jsonNumber n) (bytes name, .number n) :=
  Json.memberReads hname (Http.reads_jsonNumber n)

open Json (memberReads)
open Http (memberReads_text memberReads_number)

/-- Values written one by one. -/
theorem Json.reads_array_map {α : Type} {write : α → Bytes} {value : α → Value}
    (h : ∀ a, Reads (write a) (value a)) (as : List α) :
    Reads (Json.array (as.map write)) (.array (as.map value)) := by
  apply Json.reads_array
  rw [List.forall₂_map_left_iff, List.forall₂_map_right_iff, List.forall₂_same]
  exact fun a _ => h a

theorem Progress.reads_json (p : Progress) : Reads p.json p.report := by
  have herrors := Json.reads_array_map Http.reads_jsonText p.errors
  exact Json.reads_object
    (.cons (memberReads_number (by decide) _) (.cons (memberReads_number (by decide) _)
      (.cons (memberReads_number (by decide) _) (.cons (memberReads_number (by decide) _)
        (.cons (memberReads_number (by decide) _) (.cons (memberReads_number (by decide) _)
          (.cons (memberReads (by decide) herrors) .nil)))))))

/-- A member that stands there only if its text is not empty. -/
theorem Http.membersRead_optional {name : String} (hname : Json.Plain (bytes name)) (s : Bytes) :
    List.Forall₂ MemberReads (if s.isEmpty then [] else [(name, jsonText s)])
      (if s = [] then [] else [(bytes name, .text (legible s))]) := by
  by_cases hs : s = []
  · simp [hs]
  · simp only [List.isEmpty_iff, hs, if_false]
    exact .cons (memberReads_text hname s) .nil

theorem Build.reads_json (times : BuildTimes) (b : Build) : Reads (b.json times) (b.report times) := by
  have hdigest := Http.membersRead_optional (by decide : Json.Plain (bytes "digest")) b.digest
  apply Json.reads_object
  refine List.rel_append (List.rel_append ?_ hdigest) ?_
  · exact .cons (memberReads_number (by decide) _) (.cons (memberReads_text (by decide) _)
      (.cons (memberReads_text (by decide) _) (.cons (memberReads (by decide) b.progress.reads_json) .nil)))
  · exact .cons (memberReads_text (by decide) _) (.cons (memberReads_text (by decide) _) .nil)

theorem Tree.reads_entityJson (t : Tree) (e : Entity) : Reads (t.entityJson e) (t.entry e) := by
  have hclass := Http.membersRead_optional (by decide : Json.Plain (bytes "class_key")) (t.classKey e)
  have hwritten : t.entityJson e = Json.object ([("key", jsonText e.key),
      ("kind", jsonText e.kind.name), ("href", jsonText (href e.key))]
        ++ (if (t.classKey e).isEmpty then [] else [("class_key", jsonText (t.classKey e))])
        ++ [("source_name", jsonText e.source), ("source_line", jsonNumber e.line)]) := by
    unfold entityJson classKey
    cases t.owner? e.key <;> rfl
  rw [hwritten]
  apply Json.reads_object
  refine List.rel_append (List.rel_append ?_ hclass) ?_
  · exact .cons (memberReads_text (by decide) _) (.cons (memberReads_text (by decide) _)
      (.cons (memberReads_text (by decide) _) .nil))
  · exact .cons (memberReads_text (by decide) _) (.cons (memberReads_number (by decide) _) .nil)

theorem Tree.reads_entitiesJson (t : Tree) (kind : Bytes) :
    Reads (t.entitiesJson kind) (t.listing kind) := by
  have hchosen : ((t.entities.map t.entity).filter fun e => kind.isEmpty || e.kind.name == kind) =
      (t.entities.map t.entity).filter fun e => kind = [] ∨ e.kind.name = kind := by
    apply List.filter_congr
    intro e _
    rw [Bool.eq_iff_iff]
    simp
  have hentries := Json.reads_array_map t.reads_entityJson
    ((t.entities.map t.entity).filter fun e => kind.isEmpty || e.kind.name == kind)
  rw [hchosen] at hentries
  unfold entitiesJson
  rw [hchosen]
  exact Json.reads_object
    (.cons (memberReads (by decide) hentries) (.cons (memberReads_text (by decide) _) .nil))

/-! ## §3 Responses -/

theorem Http.carries_json {x : Bytes} {v : Value} (h : Reads x v) (status : Nat) :
    (Http.Response.json status (x ++ bytes "\n")).Carries status v :=
  ⟨rfl, rfl, rfl, h.readLine⟩

theorem Http.carries_errorResponse (status : Nat) (message : Bytes) :
    (Http.errorResponse status message).Carries status (errorReport message) :=
  Http.carries_json (Json.reads_object (.cons (memberReads_text (by decide) message) .nil)) status

end DocPages
