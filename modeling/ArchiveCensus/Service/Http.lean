import ArchiveCensus.Census.Document
import ArchiveCensus.Json.Finite
import ArchiveCensus.Json.Hidden
import ArchiveCensus.Service.Basic
import ArchiveCensus.Service.Envelope
import ArchiveCensus.Service.Route

/-!
# Service/Http — the service over HTTP

A request is answered with a status, a trace identifier, and a document in an envelope.

* A path without a route is not found, and one with a slash too many is redirected.
* Every route can only be read (`GET`).
* A fault of the service has the status of its kind; one on the side of the server is warned of.
* A defect, or a document that cannot be sent, is answered with a bare error.
* Entries with a hidden key are left out of what is sent.
* Whether a page of another origin may call the service is answered before anything else.
-/

namespace ArchiveCensus.Http

/-! ## Requests and replies -/

/-- A request to the service. -/
structure Incoming where
  method : String
  target : String
  headers : List (String × String)

/-- What a reply says. -/
inductive Body where
  | document (j : Json)
  | text (s : String)

/-- A reply of the service. -/
structure Reply where
  status : Nat
  traceId : Option String
  body : Body

/-- A text in lower case, for ASCII. -/
def foldHeader (name : String) : String := name.map Char.toLower

/-- The value of a header, whose name is in lower case. -/
def Incoming.header? (r : Incoming) (name : String) : Option String :=
  (r.headers.find? fun (given, _) => foldHeader given == name).map Prod.snd

/-- The host that a request asks for. -/
def Incoming.host (r : Incoming) : String := (r.header? "host").getD ""

/-- The trace identifier that a request has, or else one made for it. -/
def Incoming.traceId (r : Incoming) (generated : String) : String :=
  let given := Text.trim ((r.header? "x-trace-id").getD "")
  if given.isEmpty then generated else given

/-! ## Replies -/

/-- The reply to a request that the service broke down over. -/
def Reply.broken : Reply := ⟨500, none, .text "Internal Server Error"⟩

/-- Whether a key is for the inside of the service only: those are marked by how they start. -/
def isHidden (key : String) : Bool := "_sa".toList.isPrefixOf key.toList

/-- The reply to a request that went well. -/
def Reply.success (traceId : String) (data : Json) : Reply :=
  let shown := Json.withoutKeys isHidden data
  if shown.isFinite then ⟨200, some traceId, .document (Envelope.success shown traceId "ok")⟩
  else .broken

/-- The reply to a request that failed. -/
def Reply.failure (traceId : String) (status : Nat) (f : Envelope.Failure) : Reply :=
  ⟨status, some traceId, .document (Envelope.failure f traceId)⟩

/-- The reply to a request that cannot be understood. -/
def Reply.refused (traceId : String) (status : Nat) (code message : String) : Reply :=
  .failure traceId status ⟨code, message, "validation", false, none⟩

/-- The reply to a path without a route. -/
def Reply.notFound (traceId : String) : Reply :=
  .refused traceId 404 "REQ_NOT_FOUND" "resource not found"

/-- The reply to a method that no route has. -/
def Reply.notAllowed (traceId : String) : Reply :=
  .refused traceId 405 "REQ_HTTP_ERROR" "Method Not Allowed"

/-- The reply to a query that cannot be read. -/
def Reply.invalid (traceId : String) : Reply :=
  .refused traceId 400 "REQ_VALIDATION_FAILED" "invalid request"

/-! ## Pages of other origins -/

/-- A service as it is offered: its settings, and the origins whose pages may call it. -/
structure Site where
  settings : Settings
  origins : List String

/-- The site of an environment. -/
def Site.ofEnvironment (env : Environment) : Site := ⟨.ofEnvironment env, Settings.origins env⟩

/-- The methods that the page of an origin may use. -/
def sharedMethods : List String := ["DELETE", "GET", "HEAD", "OPTIONS", "PATCH", "POST", "PUT"]

/-- What the page of an origin may not do: call the service at all, or use a method. -/
def Site.refusals (site : Site) (origin method : String) : List String :=
  (if site.origins.contains "*" || site.origins.contains origin then [] else ["origin"]) ++
    if sharedMethods.contains method then [] else ["method"]

/-- The reply to a request that asks whether a page may call the service; none to another request,
or where no page may. -/
def Site.preflight? (site : Site) (traceId : String) (r : Incoming) : Option Reply := do
  let origin ← r.header? "origin"
  let method ← r.header? "access-control-request-method"
  if site.origins.isEmpty || r.method.map Char.toUpper != "OPTIONS" then none
  else
    match site.refusals origin method with
    | [] => return ⟨200, some traceId, .text "OK"⟩
    | refusals =>
        return ⟨400, some traceId, .text ("Disallowed CORS " ++ ", ".intercalate refusals)⟩

/-! ## Data -/

/-- The data of an outcome. -/
def data (c : Settings) : Outcome → Json
  | .listing l => .obj [
      ("index", .str c.aipIndex),
      ("limit", .int l.limit),
      ("count", .int l.items.length),
      ("next_cursor", .str l.nextCursor),
      ("items", .arr (l.items.map Listing.Item.toJson))]
  | .report r => .obj [
      ("index", .str c.aipIndex),
      ("aip_uuid", .str r.aipUuid),
      ("stats", r.toJson)]
  | .lookup l => l.toJson
  | .status s => s.toJson

/-! ## Answering -/

variable {σ : Type}

/-- The limit in a query: zero where there is none. -/
def limit? (t : Target) : Option Int :=
  match t.value? "limit" with
  | none => some 0
  | some s => Target.queryNumber? s

/-- The reply to a fault.  A fault on the side of the server is warned of with the path that failed;
without a path to name, the service breaks down over it. -/
def fail (path? : Option String) (traceId : String) (f : Fault) (s : Service σ) :
    Reply × Service σ :=
  match f.kind? with
  | none => (.broken, s)
  | some k =>
      let reply :=
        Reply.failure traceId k.status ⟨k.code, f.message, k.errorClass, k.retryable, none⟩
      if k.status < 500 then (reply, s)
      else match path? with
        | some path =>
            let warning := Warning.failedRequest k.code k.status path traceId
            (reply, { s with channel := s.channel.warn warning })
        | none => (.broken, s)

/-- Performs an operation for a request.  Nobody cancels it. -/
def run [Responder σ] (c : Settings) (path? : Option String) (traceId : String) (op : Operation)
    (s : Service σ) : Reply × Service σ :=
  match s.perform c false op with
  | (.ok outcome, s) => (.success traceId (data c outcome), s)
  | (.error f, s) => fail path? traceId f s

/-- Answers a request for a route, of the host that it asks for.  A limit has to be a whole
number. -/
def serve [Responder σ] (c : Settings) (host : String) (t : Target) (traceId : String)
    (route : Route) (s : Service σ) : Reply × Service σ :=
  let perform (op : Operation) := run c (t.loggedPath? host) traceId op s
  let limited (op : Int → Operation) :=
    match limit? t with
    | some n => perform (op n)
    | none => (.invalid traceId, s)
  match route with
  | .listing => limited fun n => .list ⟨"", some n, (t.value? "cursor").getD ""⟩
  | .report uuid => limited fun n => .report ⟨"", uuid, some n⟩
  | .lookup uuid => limited fun n => .lookup uuid (some n)
  | .status => perform .status
  | .probes => (.success traceId (.obj [("probes", s.probes.toJson)]), s)
  | .health =>
      let health : Json := .obj [("status", .str "ok"), ("search_index_enabled", .bool c.serves)]
      (.success traceId health, s)

/-- Answers a request for its route.  A route answers to one method only, and a path that ends in a
slash too many is sent elsewhere. -/
def answer [Responder σ] (c : Settings) (traceId : String) (r : Incoming) (s : Service σ) :
    Reply × Service σ :=
  let t := Target.ofText r.target
  match Route.ofPath? t.path with
  | some route =>
      if r.method.map Char.toUpper = "GET" then serve c r.host t traceId route s
      else (.notAllowed traceId, s)
  | none =>
      if Route.endsInSlash t.path then (⟨307, some traceId, .text ""⟩, s)
      else (.notFound traceId, s)

/-- Answers a request; `generated` is its trace identifier where it has none. -/
def respond [Responder σ] (site : Site) (generated : String) (r : Incoming) (s : Service σ) :
    Reply × Service σ :=
  let traceId := r.traceId generated
  match site.preflight? traceId r with
  | some reply => (reply, s)
  | none =>
      let (reply, s) := answer site.settings traceId r s
      let silent := r.method.map Char.toUpper = "HEAD"
      (if silent then { reply with body := .text "" } else reply, s)

end ArchiveCensus.Http
