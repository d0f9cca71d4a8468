import DocPages.Generator
import DocPages.Http.Message
import DocPages.Json.Text

/-!
# The Preview Server

The server shows the last good site.  It keeps two builds: the one that is published, which is the last
that came without an error, and the last that was attempted, which may have failed.  A rebuild has
three steps: the generator numbers a build, the inputs are rendered, and the outcome is committed.  Only
a commit changes what the server shows; requests for pages change nothing.

## Main definitions

- `Attempt`: the outcome of one rendering
- `Server`, `Server.commit`
- `Route`, `route`: which request asks for what
- `Server.respond`: the response to a request that changes nothing
- `Server.handle`: handling any request
-/

namespace DocPages

/-! ## §1 Rebuilding -/

/-- Why a rendering failed. -/
inductive RenderFailure where
  | run (e : RunError)
  | other (message : Bytes)

/-- The wording of a failure. -/
def RenderFailure.message : RenderFailure → Bytes
  | .run e => e.message
  | .other message => message

/-- The outcome of one rendering: perhaps a build, and perhaps a failure. -/
structure Attempt where
  build : Option Build
  records : List Log.Record
  failure : Option RenderFailure

/-- The outcome of a run of the generator. -/
def Attempt.ofRan (ran : Generator.Ran) : Attempt :=
  ⟨some ran.build, ran.records, ran.error.map .run⟩

/-- What the server keeps between requests. -/
structure Server where
  /-- The last build that came without an error. -/
  published : Option Build
  /-- The last build that was attempted. -/
  attempted : Option Build

namespace Server

/-- A server that has built nothing. -/
def idle : Server := ⟨none, none⟩

/-- The record of a published build. -/
def rebuilt (b : Build) : Log.Record :=
  ⟨.info, bytes "site rebuilt", [(bytes "build_id", .number b.number),
    (bytes "pages", .number (b.result.elim 0 fun r => r.site.pages.length)),
    (bytes "digest", .text b.digest)]⟩

/-- Takes the outcome of a rendering: a build becomes the last attempt, and a build without a failure
    is published. -/
def commit (s : Server) (a : Attempt) : Server × List Log.Record :=
  let s := if a.build.isSome then { s with attempted := a.build } else s
  match a.failure, a.build with
  | some _, _ => (s, [])
  | none, some b => ({ s with published := some b }, [rebuilt b])
  | none, none => ({ s with published := none }, [])

/-- The result that pages are shown from. -/
def current? (s : Server) : Option Result := s.published.bind Build.result

end Server

/-! ## §2 What is written as JSON -/

namespace Http

/-- Strings in responses escape what HTML treats specially and replace malformed bytes. -/
def jsonStyle : Json.Style := ⟨true, true, encodeRune Utf8.replacement⟩

/-- A text in a response. -/
def jsonText (s : Bytes) : Bytes := Json.string jsonStyle s

/-- A number in a response. -/
def jsonNumber (n : Int) : Bytes := Bytes.decimal n

/-- A response that reports an error. -/
def errorResponse (status : Nat) (message : Bytes) : Response :=
  .json status (Json.object [("error", jsonText message)] ++ [0x0A])

end Http

open Http (jsonText jsonNumber errorResponse)

/-- The times at which the build with a number was made and last changed. -/
abbrev BuildTimes := Int → Bytes × Bytes

/-- What a build has counted, in JSON. -/
def Progress.json (p : Progress) : Bytes :=
  Json.object [("scripts", jsonNumber p.scripts), ("entities", jsonNumber p.entities),
    ("pages", jsonNumber p.pages), ("written", jsonNumber p.written),
    ("unchanged", jsonNumber p.unchanged), ("broken_links", jsonNumber p.brokenLinks),
    ("errors", Json.array (p.errors.map jsonText))]

/-- A build in JSON; the digest stands there only if there is one. -/
def Build.json (times : BuildTimes) (b : Build) : Bytes :=
  let (made, changed) := times b.number
  Json.object ([("build_id", jsonNumber b.number), ("status", jsonText b.status.name),
      ("phase", jsonText b.phase), ("progress", b.progress.json)]
    ++ (if b.digest.isEmpty then [] else [("digest", jsonText b.digest)])
    ++ [("created_at", jsonText made), ("updated_at", jsonText changed)])

/-- An entity in JSON, with the key of the class that owns it. -/
def Tree.entityJson (t : Tree) (e : Entity) : Bytes :=
  let owner := match t.owner? e.key with
    | some h => (t.entity h).key
    | none => []
  Json.object ([("key", jsonText e.key), ("kind", jsonText e.kind.name), ("href", jsonText (href e.key))]
    ++ (if owner.isEmpty then [] else [("class_key", jsonText owner)])
    ++ [("source_name", jsonText e.source), ("source_line", jsonNumber e.line)])

/-- The entities of a tree in JSON, all or those of the kind with a name. -/
def Tree.entitiesJson (t : Tree) (kind : Bytes) : Bytes :=
  let chosen := (t.entities.map t.entity).filter fun e => kind.isEmpty || e.kind.name == kind
  Json.object [("entities", Json.array (chosen.map t.entityJson)), ("product", jsonText t.product)]

/-! ## §3 Routes -/

/-- What a request asks for. -/
inductive Route where
  | health
  | status
  | rebuild
  | entities (kind : Bytes)
  | page (path : Bytes)
  | nowhere
  | methodNotAllowed
  deriving DecidableEq, Repr

/-- The page that a path names: one leading slash is dropped, and no name means the index. -/
def pageName (wildcard : Bytes) : Bytes :=
  let name := Bytes.trimPrefix [Path.separator] wildcard
  if name.isEmpty then indexPath else name

/-- What a request asks for.  Pages, reports and the health check are read, and a rebuild is posted. -/
def route (r : Http.Request) : Route :=
  match r.target.route with
  | 0x2F :: wildcard =>
    let path := r.target.route
    if r.method == bytes "GET" then
      if path == bytes "/health" then .health
      else if path == bytes "/api/build" then .status
      else if path == bytes "/api/entities" then .entities (Url.parameter r.target.query "kind")
      else .page (pageName wildcard)
    else if r.method == bytes "POST" && path == bytes "/api/rebuild" then .rebuild
    else .methodNotAllowed
  | _ => .nowhere

/-! ## §4 Responses -/

namespace Server

/-- The response while no site is published. -/
def noSite : Http.Response := errorResponse 503 (bytes "no site has been built yet")

/-- A page of a published site, tagged with the digest of the site. -/
def pageResponse (r : Result) (path : Bytes) : Http.Response :=
  match r.site.page? path with
  | some p => ⟨200, Http.contentType path, byte '"' :: r.digest ++ [byte '"'], false, p.content⟩
  | none => .notFound

/-- A build as a response. -/
def buildResponse (times : BuildTimes) (status : Nat) (b : Build) : Http.Response :=
  .json status (b.json times ++ [0x0A])

/-- The response to a request that changes nothing. -/
def respond (times : BuildTimes) (s : Server) : Route → Http.Response
  | .health => .json 200 (Json.object [("status", jsonText (bytes "ok"))])
  | .status =>
    match s.attempted with
    | some b => buildResponse times 200 b
    | none => errorResponse 404 (bytes "no build has run yet")
  | .entities kind =>
    match s.current? with
    | some r => .json 200 (r.tree.entitiesJson kind ++ [0x0A])
    | none => noSite
  | .page path =>
    match s.current? with
    | some r => pageResponse r path
    | none => noSite
  | .nowhere => .notFound
  | .methodNotAllowed | .rebuild => .bare 405

/-- The record of a rebuild that failed. -/
def rebuildFailed (message : Bytes) : Log.Record :=
  ⟨.warn, bytes "rebuild failed", [(bytes "error", .text message)]⟩

/-- The response to a request to rebuild, and the record of its failure. -/
def rebuildResponse (times : BuildTimes) (a : Attempt) : List Log.Record × Http.Response :=
  match a.failure, a.build with
  | some f, some b => ([rebuildFailed f.message], buildResponse times 422 b)
  | some f, none => ([rebuildFailed f.message], errorResponse 422 f.message)
  | none, some b => ([], buildResponse times 200 b)
  | none, none => ([], .bare 500)

/-- The record of a request. -/
def requestRecord (r : Http.Request) (response : Http.Response) : Log.Record :=
  ⟨.info, bytes "request", [(bytes "request_id", .text r.id), (bytes "method", .text r.method),
    (bytes "path", .text r.target.path), (bytes "status", .number response.status),
    (bytes "bytes", .number response.body.length)]⟩

/-- Renders the site again and commits the outcome; `σ` is what the renderer keeps. -/
def rebuild {σ : Type} (render : σ → σ × Attempt) (s : Server) (state : σ) :
    Server × σ × List Log.Record × Attempt :=
  let (state, a) := render state
  let (s, committed) := s.commit a
  (s, state, a.records ++ committed, a)

/-- Handles a request.  Without a renderer, a request to rebuild is an internal error, which leaves no
    record of the request. -/
def handle {σ : Type} (times : BuildTimes) (render : Option (σ → σ × Attempt)) (r : Http.Request)
    (s : Server) (state : σ) : Server × σ × List Log.Record × Http.Response :=
  match route r, render with
  | .rebuild, none => (s, state, [], .bare 500)
  | .rebuild, some render =>
    let (s, state, records, a) := s.rebuild render state
    let (failed, response) := rebuildResponse times a
    (s, state, records ++ failed ++ [requestRecord r response], response)
  | route, _ =>
    let response := s.respond times route
    (s, state, [requestRecord r response], response)

end Server

end DocPages
