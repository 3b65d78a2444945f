import ArchiveCensus.Text.Blank
import ArchiveCensus.Index.Channel
import ArchiveCensus.Index.Hit

/-!
# Index/Client — requests and what their answers mean

A client knows where the index is and how long to wait for it.  A request ends in a document map, or
in a fault: the index is switched off, it cannot be reached, it refuses, or it answers with
something else.  A refusal and an index that cannot be reached are also warned of.
-/

namespace ArchiveCensus

/-- Where the index is, and how long to wait for it. -/
structure Client where
  endpoint : String
  timeout : Number

namespace Client

variable {σ : Type}

/-- The client of an endpoint; padding and slashes at its end are dropped. -/
def ofEndpoint (endpoint : String) (timeout : Number) : Client :=
  ⟨Text.stripStringEnd (· == '/') (Text.trim endpoint), timeout⟩

/-- Whether there is an index to ask. -/
def enabled (c : Client) : Bool := !c.endpoint.isEmpty

/-- Whether a status says that the answer is good. -/
def isGood (status : Int) : Bool := 200 ≤ status && status < 300

/-- How much is quoted of the text of a refusal. -/
def quoted (text : String) : String := Text.trim (String.ofList (text.toList.take 2048))

/-- The document of an answer. -/
def read (url : String) : Answer → Call σ Json
  | .unreachable reason message => do
      Call.warn (.unreachable url reason)
      throw (.indexUnavailable ("elasticsearch unavailable: " ++ message) none)
  | .response status text document => do
      if !isGood status then
        Call.warn (.refused url status)
        throw (.indexUnavailable
          ("elasticsearch status=" ++ decimal status ++ " body=" ++ quoted text) (some status))
      match document with
      | .error message =>
          throw (.indexUnavailable ("elasticsearch returned invalid json: " ++ message) none)
      | .ok (.obj entries) => return .obj entries
      | .ok j =>
          throw (.indexUnavailable
            ("elasticsearch returned " ++ j.kindName ++ ", expected object") none)

/-- The document the index answers a request with. -/
def request [Responder σ] (c : Client) (path : String) (body : Option Json)
    (timeout : Option Number) : Call σ Json := do
  if !c.enabled then throw .indexDisabled
  let url := c.endpoint ++ path
  read url (← Call.send ⟨url, timeout.getD c.timeout, body⟩)

/-- The path of searches in an index; those in every index have no name in it. -/
def searchPath (index : String) : String :=
  let name := Text.stripString (· == '/') index
  if name.isEmpty then "/_search" else "/" ++ name ++ "/_search"

/-- The page the index answers a query with. -/
def search [Responder σ] (c : Client) (index : String) (query : Json) (timeout : Option Number) :
    Call σ Page := do
  return Page.ofJson (← c.request (searchPath index) (some query) timeout)

end Client

end ArchiveCensus
