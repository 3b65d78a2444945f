import ArchiveCensus.Json.Plain
import ArchiveCensus.Json.Reading

/-!
# Index/Hit — a page of documents from the index

The index answers a query with a page of hits.  A hit names its document, carries its content, and
has the sort values at which a query can go on.  A page or a hit can be read from any document;
parts that are missing or of another kind are absent.
-/

namespace ArchiveCensus

/-- A document the index found. -/
structure Hit where
  id : String
  /-- The values the hit is sorted by. -/
  sort : List Json
  /-- The entries of the document. -/
  source : List (String × Json)
  index : String
  score : Binary64
  deriving Inhabited

/-- A page of hits. -/
structure Page where
  hits : List Hit
  tookMs : Int
  totalHits : Int

namespace Hit

/-- The hit a document describes. -/
def ofJson (j : Json) : Hit :=
  { id := (j.get "_id").identifier
    sort := match j.get "sort" with
      | .arr values => values
      | _ => []
    source := (j.get "_source").entries
    index := (j.get "_index").identifier
    score := (j.get "_score").measure }

/-- The document of a hit. -/
def document (h : Hit) : Json := .obj h.source

end Hit

namespace Page

/-- The total of a page: a number, or a map that has it as its value. -/
def total : Json → Int
  | .obj es => ((Json.obj es).get "value").wholeMeasure
  | j => j.wholeMeasure

/-- The page a document describes. -/
def ofJson (j : Json) : Page :=
  let found := j.get "hits"
  { hits := match found.get "hits" with
      | .arr hits => hits.map Hit.ofJson
      | _ => []
    tookMs := (j.get "took").wholeMeasure
    totalHits := total (found.get "total") }

/-- **A page has one hit for each element of the list of hits.** -/
theorem hits_ofJson (j : Json) (hits : List Json) (h : (j.get "hits").get "hits" = .arr hits) :
    (ofJson j).hits = hits.map Hit.ofJson := by
  simp [ofJson, h]

end Page

end ArchiveCensus
