import ArchiveCensus.Fault
import ArchiveCensus.Json.Basic

/-!
# Index/Channel — the exchange with the index

The index is whatever answers requests: a `Responder` is a type of states together with the exchange
that a state makes of a request.  A `Channel` is such a state with the time and with what has been
seen from outside — the requests sent and the warnings given — and a `Call` is a computation over it
that ends in a value or in a fault, keeping the channel in either case.

Time passes during exchanges and at no other moment.
-/

namespace ArchiveCensus

/-! ## Requests and answers -/

/-- A request to the index.  One with a body is posted. -/
structure Request where
  url : String
  timeout : Number
  body : Option Json

/-- What the index makes of a request. -/
inductive Answer where
  /-- It answers with a status, a text, and the document in the text, or why there is none. -/
  | response (status : Int) (text : String) (document : Except String Json)
  /-- It cannot be reached, for a named reason. -/
  | unreachable (reason message : String)

/-- An answer, the seconds it takes, and whether the caller cancels meanwhile. -/
structure Exchange where
  answer : Answer
  elapsed : Number
  cancels : Bool

/-- What answers requests, one after another. -/
class Responder (σ : Type) where
  exchange : σ → Request → Exchange × σ

/-- The method of a request. -/
def Request.method (r : Request) : String := if r.body.isSome then "POST" else "GET"

/-! ## Warnings -/

/-- What is warned of. -/
inductive Warning where
  /-- The index refused a request. -/
  | refused (url : String) (status : Int)
  | unreachable (url reason : String)
  /-- A scan came to its last page while there may be more. -/
  | pageCeiling (aipUuid : String) (maxPages : Int)
  /-- A request to the service failed on the side of the server. -/
  | failedRequest (code : String) (status : Nat) (path traceId : String)
  deriving DecidableEq, Repr

/-- A whole number in decimal. -/
def decimal (z : Int) : String := String.ofList (Number.wholeText z)

/-- The line a warning is logged with. -/
def Warning.text : Warning → String
  | .refused url status => "search_index_http_error url=" ++ url ++ " status=" ++ decimal status
  | .unreachable url reason => "search_index_unreachable url=" ++ url ++ " error=" ++ reason
  | .pageCeiling aipUuid maxPages =>
      "aip_scan_page_ceiling aip_uuid=" ++ aipUuid ++ " max_pages=" ++ decimal maxPages
  | .failedRequest code status path traceId =>
      "api_error code=" ++ code ++ " status=" ++ decimal status ++ " path=" ++ path ++
        " trace_id=" ++ traceId

/-! ## The channel -/

/-- A responder in use. -/
structure Channel (σ : Type) where
  responder : σ
  clock : Binary64
  /-- Whether the caller has cancelled. -/
  cancelled : Bool
  /-- The requests sent, in order. -/
  sent : List Request
  /-- The warnings given, in order. -/
  warnings : List Warning

namespace Channel

/-- The channel to a responder at time zero. -/
def start {σ : Type} (responder : σ) : Channel σ :=
  { responder, clock := .zero, cancelled := false, sent := [], warnings := [] }

/-- The channel after one more warning. -/
def warn {σ : Type} (c : Channel σ) (w : Warning) : Channel σ :=
  { c with warnings := c.warnings ++ [w] }

/-- The answer to a request, and the channel after it.  There is none where it takes more seconds
than the clock can count. -/
def send {σ : Type} [Responder σ] (c : Channel σ) (r : Request) :
    Except Defect Answer × Channel σ :=
  let (exchange, responder) := Responder.exchange c.responder r
  let noted := { c with responder := responder, sent := c.sent ++ [r] }
  match Defect.orTooLarge exchange.elapsed.asDouble? with
  | .ok seconds =>
      (.ok exchange.answer,
        { noted with
          clock := c.clock.add seconds
          cancelled := c.cancelled || exchange.cancels })
  | .error d => (.error d, noted)

@[simp] theorem sent_warn {σ : Type} (c : Channel σ) (w : Warning) : (c.warn w).sent = c.sent := rfl

@[simp] theorem clock_warn {σ : Type} (c : Channel σ) (w : Warning) :
    (c.warn w).clock = c.clock := rfl

/-- **A request is noted whatever comes of it.** -/
@[simp] theorem sent_send {σ : Type} [Responder σ] (c : Channel σ) (r : Request) :
    (c.send r).2.sent = c.sent ++ [r] := by
  unfold send
  dsimp only
  split <;> rfl

end Channel

/-- A computation over a channel that ends in a value or in a fault. -/
abbrev Call (σ : Type) := ExceptT Fault (StateM (Channel σ))

namespace Call

variable {σ α : Type}

/-- A value, unless a calculation has none. -/
def ofDefect : Except Defect α → Call σ α
  | .ok a => pure a
  | .error d => throw (.defect d)

/-- Sends a request. -/
def send [Responder σ] (r : Request) : Call σ Answer := do
  ofDefect (← modifyGet (Channel.send · r))

/-- Gives a warning. -/
def warn (w : Warning) : Call σ Unit := modify (Channel.warn · w)

/-- The time. -/
def now : Call σ Binary64 := return (← get).clock

/-- A value, unless there is a fault. -/
def ofExcept : Except Fault α → Call σ α
  | .ok a => pure a
  | .error f => throw f

end Call

end ArchiveCensus
