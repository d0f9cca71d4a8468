import DocPages.Path
import DocPages.Url

/-!
# HTTP Messages

A request asks for a target, usually a path with a query.  The path is used in two forms: decoded, and
as it was written when that differs from how the decoded path would be written.

## Main definitions

- `Http.Target`, `Http.Target.parse?`
- `Http.Request`, `Http.Response`
- `Http.contentType`: the type of content that the end of a name suggests
-/

namespace DocPages

namespace Http

/-! ## §1 Requests -/

/-- What a request asks for. -/
structure Target where
  /-- The path with its escapes read. -/
  path : Bytes
  /-- The path that routes are matched against. -/
  route : Bytes
  query : Bytes
  deriving DecidableEq, Repr

/-- The path and query of a target without its scheme and host. -/
def withoutHost (target : Bytes) : Bytes :=
  match Url.scheme target with
  | .given _ rest =>
    match Bytes.dropPrefix? (bytes "//") rest with
    | some rest => rest.dropWhile fun b => b != byte '/' && b != byte '?'
    | none => target
  | _ => target

/-- Reads a target.  A path that would be written otherwise is matched as it was written. -/
def Target.parse? (target : Bytes) : Option Target :=
  let reference := withoutHost target
  let written := reference.takeWhile (· != byte '?')
  (Url.decode? written).map fun path =>
    let route := if Url.encodePath path == written then path else written
    ⟨path, if route.isEmpty then [Path.separator] else route, reference.drop (written.length + 1)⟩

/-- A request, with the name that the log knows it by. -/
structure Request where
  id : Bytes
  method : Bytes
  target : Target
  deriving DecidableEq, Repr

/-- Reads the first line of a request: a method and a target, with a space between. -/
def Request.parse? (id line : Bytes) : Option Request :=
  let method := line.takeWhile (· != 0x20)
  (Target.parse? (line.drop (method.length + 1))).map fun target => ⟨id, method, target⟩

/-! ## §2 Responses -/

/-- A response; an absent header is empty. -/
structure Response where
  status : Nat
  contentType : Bytes
  /-- The mark that changes when the content does. -/
  entityTag : Bytes
  /-- Whether the client is told not to guess another type of content. -/
  noSniff : Bool
  body : Bytes
  deriving DecidableEq, Repr

namespace Response

/-- A response without content. -/
def bare (status : Nat) : Response := ⟨status, [], [], false, []⟩

/-- A response in JSON. -/
def json (status : Nat) (body : Bytes) : Response := ⟨status, bytes "application/json", [], false, body⟩

/-- The response for a page that is not there. -/
def notFound : Response :=
  ⟨404, bytes "text/plain; charset=utf-8", [], true, bytes "404 page not found\n"⟩

/-- The headers of a response that are not empty. -/
def headers (r : Response) : List (Bytes × Bytes) :=
  [(bytes "Content-Type", r.contentType), (bytes "ETag", r.entityTag),
    (bytes "X-Content-Type-Options", if r.noSniff then bytes "nosniff" else []),
    (bytes "Content-Length", Bytes.decimalNat r.body.length)].filter fun h => !h.2.isEmpty

/-- A response as it is sent. -/
def text (r : Response) : Bytes :=
  bytes "HTTP/1.1 " ++ Bytes.decimalNat r.status ++ bytes "\r\n"
    ++ (r.headers.flatMap fun (name, value) => name ++ bytes ": " ++ value ++ bytes "\r\n")
    ++ bytes "\r\n" ++ r.body

end Response

/-! ## §3 Types of content -/

/-- The types of content by the end of a name. -/
def contentTypes : List (String × String) :=
  [(".avif", "image/avif"), (".css", "text/css; charset=utf-8"), (".gif", "image/gif"),
    (".htm", "text/html; charset=utf-8"), (".html", "text/html; charset=utf-8"),
    (".jpeg", "image/jpeg"), (".jpg", "image/jpeg"), (".js", "text/javascript; charset=utf-8"),
    (".json", "application/json"), (".mjs", "text/javascript; charset=utf-8"),
    (".pdf", "application/pdf"), (".png", "image/png"), (".svg", "image/svg+xml"),
    (".wasm", "application/wasm"), (".webp", "image/webp"), (".xml", "text/xml; charset=utf-8")]

/-- The type of content for an end of a name. -/
def typeOf? (ending : Bytes) : Option Bytes :=
  contentTypes.findSome? fun (known, type) => if bytes known == ending then some (bytes type) else none

/-- The end of the last name of a path, from its last dot; empty without a dot. -/
def ending (path : Bytes) : Bytes :=
  let name := (path.reverse.takeWhile (· != Path.separator)).reverse
  if name.contains (byte '.') then byte '.' :: (name.reverse.takeWhile (· != byte '.')).reverse else []

/-- The type of content that a path suggests: by the end of its name as it is, or in small letters. -/
def contentType (path : Bytes) : Bytes :=
  let e := ending path
  match typeOf? e, typeOf? (e.map Bytes.lower) with
  | some type, _ => type
  | none, some type => type
  | none, none => bytes "application/octet-stream"

end Http

end DocPages
