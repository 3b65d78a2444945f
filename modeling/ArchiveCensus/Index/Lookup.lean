import ArchiveCensus.Index.Client

/-!
# Index/Lookup — finding a transfer by its identifier

A lookup searches every index for documents that have an identifier as that of their transfer, of
their submission or of their package, or that mention it anywhere.
-/

namespace ArchiveCensus

/-- The documents found for an identifier. -/
structure Lookup where
  transferUuid : String
  page : Page

namespace Lookup

variable {σ : Type}

/-- The fields an identifier may stand in. -/
def fields : List String := ["transferUUID", "SIPUUID", "AIPUUID"]

/-- The query for documents whose field has a value. -/
def term (field value : String) : Json := .obj [("term", .obj [(field, .str value)])]

/-- The query for documents that mention a text. -/
def mention (text : String) : Json :=
  .obj [("query_string", .obj [("query", .str ("\"" ++ text ++ "\""))])]

/-- The query for documents that one of several queries finds. -/
def anyOf (queries : List Json) : Json :=
  .obj [("bool", .obj [("should", .arr queries), ("minimum_should_match", .int 1)])]

/-- The query for an identifier. -/
def query (uuid : String) : Json :=
  anyOf (fields.flatMap (fun name => [term (name ++ ".keyword") uuid, term name uuid]) ++
    [mention uuid])

/-- How many documents are asked for when the limit asks for none. -/
def defaultLimit : Int := 5

/-- The request of a lookup. -/
def body (uuid : String) (limit : Int) : Json :=
  .obj [("size", .int (if limit ≤ 0 then defaultLimit else limit)), ("query", query uuid)]

/-- Looks an identifier up in every index. -/
def find [Responder σ] (c : Client) (transferUuid : String) (limit : Int) : Call σ Lookup := do
  let uuid := Text.trim transferUuid
  if uuid.isEmpty then throw (.invalidIdentifier .transfer)
  return ⟨uuid, ← c.search "" (body uuid limit) none⟩

/-- A document found, as a document. -/
def hitJson (h : Hit) : Json :=
  .obj [("index", .str h.index), ("id", .str h.id), ("score", .double h.score),
    ("source", h.document)]

/-- A lookup as a document. -/
def toJson (l : Lookup) : Json :=
  .obj [("transfer_uuid", .str l.transferUuid), ("took_ms", .int l.page.tookMs),
    ("total_hits", .int l.page.totalHits), ("hits", .arr (l.page.hits.map hitJson))]

end Lookup

end ArchiveCensus
