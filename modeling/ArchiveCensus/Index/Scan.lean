import ArchiveCensus.Index.Guard
import ArchiveCensus.Index.Limits

/-!
# Index/Scan — every file of one package

A scan goes through the files of a package page by page and hands each hit to a *consumer*, which
takes it, refuses it, or wants no more.  A page is fetched only when a hit of it is wanted, so what
a consumer leaves is never asked for.

A scan always ends, in one of three ways, and the consumer keeps what it has:

* `exhausted` — there are no more hits, or no more pages may be fetched;
* `taken` — the consumer wants no more;
* `failed` — a page could not be fetched, or the consumer refused a hit.
-/

namespace ArchiveCensus

/-- How a scan ends. -/
inductive Ending where
  | exhausted
  | taken
  | failed (fault : Fault)
  deriving DecidableEq

/-! ## Consumers -/

/-- What is done with the hits of a scan. -/
structure Consumer (β : Type) where
  /-- Whether one more hit is wanted. -/
  wants : β → Bool
  /-- What a hit makes of the state, unless it is refused. -/
  take : β → Hit → Except Fault β

namespace Consumer

variable {β : Type}

/-- Hands over hits as long as they are wanted; an ending where no more hits are to follow. -/
def feed (c : Consumer β) : List Hit → β → β × Option Ending
  | [], b => (b, if c.wants b then none else some .taken)
  | h :: rest, b =>
      if c.wants b then
        match c.take b h with
        | .ok b' => feed c rest b'
        | .error f => (b, some (.failed f))
      else (b, some .taken)

/-- The consumer that keeps hits, up to so many of them. -/
def keep (most : Option Nat) : Consumer (List Hit) where
  wants hits := most.all (hits.length < ·)
  take hits h := .ok (hits ++ [h])

/-- The consumer that takes in every hit. -/
def all (take : β → Hit → Except Fault β) : Consumer β where
  wants _ := true
  take := take

end Consumer

/-! ## Scans -/

/-- What a scan asks for and how. -/
structure Scan where
  client : Client
  index : String
  aipUuid : String
  pageSize : Int
  maxPages : Int
  guard : Guard
  timeout : Number

namespace Scan

variable {σ β : Type}

/-- The fields of a document that a scan asks for. -/
def fields : List String :=
  ["AIPUUID", "sipName", "FILEUUID", "filePath", "fileExtension", "status", "indexedAt", "size",
    "FileSize", "origin", "accessionid", "isPartOf", "identifiers", "archivematicaVersion", "METS"]

/-- The query for the page after some sort values. -/
def query (s : Scan) (after : List Json) : Json :=
  let term (field : String) : Json := .obj [("term", .obj [(field, .str s.aipUuid)])]
  .obj ([
    ("size", .int s.pageSize),
    ("_source", .texts fields),
    ("query", .obj [("bool", .obj [
      ("should", .arr [term "AIPUUID.keyword", term "AIPUUID"]),
      ("minimum_should_match", .int 1)])]),
    ("sort", .arr [.obj [("FILEUUID", .str "asc")], .obj [("filePath.raw", .str "asc")]])] ++
    if after.isEmpty then [] else [("search_after", .arr after)])

/-- Goes on page by page from some sort values, for at most so many pages, while hits are wanted. -/
def advance [Responder σ] (s : Scan) (c : Consumer β) :
    Nat → List Json → β → StateM (Channel σ) (β × Ending)
  | 0, _, b => do
      modify (Channel.warn · (.pageCeiling s.aipUuid s.maxPages))
      return (b, .exhausted)
  | n + 1, after, b => do
      match ← (s.guard.fetch s.client s.index (s.query after) s.timeout).run with
      | .error fault => return (b, .failed fault)
      | .ok hits =>
          match hits.getLast? with
          | none => return (b, .exhausted)
          | some last =>
              match c.feed hits b with
              | (b, some ending) => return (b, ending)
              | (b, none) =>
                  if last.sort.isEmpty then return (b, .exhausted) else advance s c n last.sort b

/-- Hands the hits of a scan to a consumer. -/
def run [Responder σ] (s : Scan) (c : Consumer β) (start : β) : StateM (Channel σ) (β × Ending) :=
  if c.wants start then advance s c s.maxPages.toNat [] start else return (start, .taken)

/-- What a caller wants of a scan. -/
structure Wish where
  index : String
  aipUuid : String
  pageSize : Option Int

/-- The scan a caller wants: its package has to be named. -/
def plan (c : Client) (w : Wish) (limits : Limits) (guard : Guard) (timeout : Number) :
    Except Fault Scan :=
  let aipUuid := Text.trim w.aipUuid
  if aipUuid.isEmpty then .error (.invalidIdentifier .aip)
  else .ok {
    client := c
    index := w.index
    aipUuid := aipUuid
    pageSize := Limits.clamp w.pageSize limits.scanDefaultPage limits.scanMaxPage
    maxPages := limits.scanMaxPages
    guard := guard
    timeout := timeout }

end Scan

end ArchiveCensus
