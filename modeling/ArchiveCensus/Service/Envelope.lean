import ArchiveCensus.Json.Basic

/-!
# Service/Envelope — what is around every answer

An answer of the service is a map that says whether the call succeeded, with its data or with what
went wrong, and with the trace identifier of the request.
-/

namespace ArchiveCensus.Envelope

/-- What is told of a failure. -/
structure Failure where
  code : String
  message : String
  errorClass : String
  retryable : Bool
  details : Option Json

/-- The trace identifier of a request, as a document. -/
def trace (traceId : String) : Json := .obj [("trace_id", .str traceId)]

/-- The answer to a call that succeeded. -/
def success (data : Json) (traceId message : String) : Json :=
  .obj [("success", .bool true), ("data", data), ("message", .str message), ("meta", trace traceId)]

/-- The answer to a call that failed. -/
def failure (f : Failure) (traceId : String) : Json :=
  let error := [
    ("code", .str f.code),
    ("message", .str f.message),
    ("retryable", .bool f.retryable),
    ("class", .str f.errorClass)] ++ (f.details.map (("details", ·))).toList
  .obj [("success", .bool false), ("error", .obj error), ("meta", trace traceId)]

end ArchiveCensus.Envelope
