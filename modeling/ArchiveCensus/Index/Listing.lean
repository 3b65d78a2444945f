import ArchiveCensus.Index.Cursor
import ArchiveCensus.Index.Guard
import ArchiveCensus.Index.Limits

/-!
# Index/Listing — the packages of an index, one part at a time

The index holds files, sorted by their package.  A listing goes through them page by page and keeps
each package at its first file, until it has as many as are wanted, the files end, or it has fetched
as many pages as it may.  Its cursor stands after the last file of the last page, and the next
listing goes on from there.

* `collect` is what one page adds.
* `advance` goes from page to page.
* `list` is the listing that a cursor leads to.
-/

namespace ArchiveCensus

/-- A package of a listing. -/
structure Listing.Item where
  aipUuid : String
  sipName : String
  deriving DecidableEq, Repr

/-- The packages found by one call. -/
structure Listing where
  items : List Listing.Item
  /-- Where the next listing goes on; empty where nothing is left. -/
  nextCursor : String
  /-- How many pages were fetched. -/
  pages : Nat
  /-- How many packages were wanted. -/
  limit : Int

namespace Listing

variable {σ : Type}

/-! ## One page -/

/-- The package of a hit. -/
def itemOf (h : Hit) : Item :=
  { aipUuid := (h.document.get "AIPUUID").label, sipName := (h.document.get "sipName").label }

/-- Whether an item is of a package that is not among others. -/
def isNew (items : List Item) (item : Item) : Bool :=
  !item.aipUuid.isEmpty && !items.any (·.aipUuid == item.aipUuid)

/-- The items with the new ones of a page, as long as more are wanted. -/
def collect (limit : Int) : List Hit → List Item → List Item
  | [], items => items
  | h :: rest, items =>
      if isNew items (itemOf h) then
        let items := items ++ [itemOf h]
        if limit ≤ items.length then items else collect limit rest items
      else collect limit rest items

/-! ## From page to page -/

/-- What a listing asks for and how. -/
structure Plan where
  client : Client
  index : String
  limit : Int
  /-- How many documents make a page. -/
  size : Int
  guard : Guard
  timeout : Number

/-- The query for the page after some sort values. -/
def Plan.query (p : Plan) (after : List Json) : Json :=
  .obj ([
    ("size", .int p.size),
    ("_source", .texts ["AIPUUID", "sipName"]),
    ("sort", .arr [.obj [("AIPUUID", .str "asc")], .obj [("FILEUUID", .str "asc")]])] ++
    if after.isEmpty then [] else [("search_after", .arr after)])

/-- What has been listed so far. -/
structure Progress where
  items : List Item
  pages : Nat
  /-- The sort values of the last hit of the last page; none where nothing is left. -/
  position : List Json

/-- Goes on page by page from some sort values, for at most so many pages. -/
def advance [Responder σ] (p : Plan) : Nat → List Json → Progress → Call σ Progress
  | 0, _, done => return done
  | n + 1, after, done => do
      if p.limit ≤ done.items.length then return done
      let hits ← p.guard.fetch p.client p.index (p.query after) p.timeout
      match hits.getLast? with
      | none => return { done with pages := done.pages + 1, position := [] }
      | some last =>
          let done : Progress :=
            { items := collect p.limit hits done.items
              pages := done.pages + 1
              position := last.sort }
          if last.sort.isEmpty then return done else advance p n last.sort done

/-! ## A call -/

/-- What a caller wants of a listing. -/
structure Wish where
  index : String
  limit : Option Int
  cursor : String

/-- The listing from a cursor on. -/
def list [Responder σ] (c : Client) (w : Wish) (limits : Limits) (guard : Guard)
    (timeout : Number) : Call σ Listing := do
  let limit := Limits.clamp w.limit limits.listDefault limits.listMax
  let after := (← Call.ofExcept (Cursor.decode w.cursor)).getD []
  let plan : Plan :=
    { client := c, index := w.index, limit, size := limit * limits.listOverfetch, guard, timeout }
  let done ← advance plan limits.listMaxPages.toNat after ⟨[], 0, []⟩
  return {
    items := done.items
    nextCursor := if done.position.isEmpty then "" else Cursor.encode done.position
    pages := done.pages
    limit := limit }

/-- An item as a document. -/
def Item.toJson (item : Item) : Json :=
  .obj [("aip_uuid", .str item.aipUuid), ("sip_name", .str item.sipName)]

end Listing

end ArchiveCensus
