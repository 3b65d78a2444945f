import ArchiveCensus.Json.Reading
import ArchiveCensus.Index.Channel

/-!
# Index/Script — an index whose answers are known beforehand

A script lists exchanges in the order in which they will be made, whatever the requests are.  An
exchange is read from a document: `status`, `text` and `json` describe a response, `json_error` why
there is no document in it, and `raise` with its `message` that there is no response at all;
`elapsed` and `cancel` say how long the exchange takes and whether the caller cancels meanwhile.
-/

namespace ArchiveCensus

namespace Exchange

/-- An empty map, at once. -/
def blank : Exchange :=
  { answer := .response 200 "" (.ok (.obj [])), elapsed := .double .zero, cancels := false }

/-- A text as it stands; empty for what is no text. -/
def plainText : Json → String
  | .str s => s
  | _ => ""

/-- A number of seconds; zero for what is no number. -/
def seconds : Json → Number
  | .num n => n
  | _ => .double .zero

/-- The response a document describes. -/
def responseOf (j : Json) : Answer :=
  let status := match j.get "status" with
    | .num (.whole status) => status
    | _ => 200
  let document := match j.get "json_error" with
    | .str message => .error message
    | _ => .ok (if j.entries.any (·.1 == "json") then j.get "json" else .obj [])
  .response status (plainText (j.get "text")) document

/-- The exchange a document describes. -/
def ofJson (j : Json) : Exchange :=
  { answer := match j.get "raise" with
      | .str reason => .unreachable reason (plainText (j.get "message"))
      | _ => responseOf j
    elapsed := seconds (j.get "elapsed")
    cancels := (j.get "cancel").isGiven }

end Exchange

/-- Exchanges in the order in which they will be made; after the last one, every answer is an empty
map, at once. -/
structure Script where
  exchanges : List Exchange

instance : Responder Script where
  exchange s _ :=
    match s.exchanges with
    | [] => (.blank, s)
    | e :: rest => (e, ⟨rest⟩)

end ArchiveCensus
