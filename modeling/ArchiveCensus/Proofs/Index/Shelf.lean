import ArchiveCensus.Proofs.Index.Call

/-!
# Proofs/Index/Shelf — documents in the order of their sort values

A shelf holds the documents that queries are about.  Behind the sort values of one of them stand the
documents after it, since nothing stands on both sides of another.

* `Shelf.after_last` — behind a part of the shelf stands the rest of it.
* `Shelf.Answers` — an index answers queries with the front of what stands behind a position.
* `Memory` — an index that does so, whatever it holds.
-/

namespace ArchiveCensus

variable {σ : Type}

/-! ## Shelves -/

/-- Documents with sort values, each before those behind it. -/
structure Shelf where
  before : List Json → List Json → Bool
  docs : List Hit
  asymm : ∀ {a b}, before a b = true → before b a = false
  ordered : docs.Pairwise fun d e => before d.sort e.sort = true
  placed : ∀ d ∈ docs, d.sort ≠ []

namespace Shelf

/-- The order of pairs of texts: by the first of them, and then by the second. -/
def pairBefore : List Json → List Json → Bool
  | [.str a, .str f], [.str b, .str g] => decide (a < b) || (a == b && decide (f < g))
  | _, _ => false

theorem pairBefore_pair {a b f g : String} :
    pairBefore [.str a, .str f] [.str b, .str g] = true ↔ a < b ∨ a = b ∧ f < g := by
  simp [pairBefore]

theorem exists_of_pairBefore {p q : List Json} (h : pairBefore p q = true) :
    ∃ a f b g, p = [.str a, .str f] ∧ q = [.str b, .str g] := by
  unfold pairBefore at h
  split at h
  · exact ⟨_, _, _, _, rfl, rfl⟩
  · cases h

theorem pairBefore_asymm {p q : List Json} (h : pairBefore p q = true) :
    pairBefore q p = false := by
  obtain ⟨a, f, b, g, rfl, rfl⟩ := exists_of_pairBefore h
  rw [pairBefore_pair] at h
  rw [← Bool.not_eq_true, pairBefore_pair]
  rintro (h' | ⟨rfl, h'⟩)
  · obtain h | ⟨rfl, -⟩ := h
    · exact String.lt_asymm h h'
    · exact String.lt_irrefl _ h'
  · obtain h | ⟨-, h⟩ := h
    · exact String.lt_irrefl _ h
    · exact String.lt_asymm h h'

variable (s : Shelf)

/-- The documents behind some sort values; all of them behind none. -/
def after (position : List Json) : List Hit :=
  if position.isEmpty then s.docs else s.docs.filter (s.before position ·.sort)

@[simp] theorem after_nil : s.after [] = s.docs := rfl

variable {s} in
theorem mem_after_iff {position : List Json} (h : position ≠ []) {d : Hit} :
    d ∈ s.after position ↔ d ∈ s.docs ∧ s.before position d.sort = true := by
  rw [after, if_neg (by simpa using h), List.mem_filter]

theorem before_self (position : List Json) : s.before position position = false := by
  cases h : s.before position position with
  | false => rfl
  | true => rw [← h, s.asymm h]

theorem after_sort {front rest : List Hit} {d : Hit} (h : s.docs = front ++ d :: rest) :
    s.after d.sort = rest := by
  have hplaced : d.sort ≠ [] := s.placed d (by simp [h])
  have hordered := s.ordered
  rw [h, List.pairwise_append, List.pairwise_cons] at hordered
  obtain ⟨-, ⟨hrest, -⟩, hfront⟩ := hordered
  have hfront' : front.filter (s.before d.sort ·.sort) = [] := by
    refine List.filter_eq_nil_iff.2 fun e he => ?_
    simp [s.asymm (hfront e he d (by simp))]
  have hrest' : rest.filter (s.before d.sort ·.sort) = rest :=
    List.filter_eq_self.2 hrest
  rw [after, if_neg (by simpa using hplaced), h, List.filter_append, hfront', List.nil_append,
    List.filter_cons_of_neg (by simp [s.before_self]), hrest']

/-- **Behind a part of the shelf stands the rest of it.** -/
theorem after_last {front seg rest : List Hit} {last : Hit} (h : s.docs = front ++ (seg ++ rest))
    (hlast : seg.getLast? = some last) : s.after last.sort = rest := by
  obtain ⟨init, rfl⟩ := List.getLast?_eq_some_iff.1 hlast
  have hdocs : s.docs = (front ++ init) ++ last :: rest := by simp [h]
  exact s.after_sort hdocs

/-- An index answers queries of a size: with the first documents behind the position of the query,
whatever it was asked before. -/
def Answers (σ : Type) [Responder σ] (c : Client) (index : String) (query : List Json → Json)
    (size : Int) : Prop :=
  ∀ (state : σ) (timeout : Number) (position : List Json),
    (Responder.exchange state
      ⟨c.endpoint ++ Client.searchPath index, timeout, some (query position)⟩).1.Gives
        ((s.after position).take size.toNat)

variable {s} [Responder σ] {c : Client} {index : String} {query : List Json → Json} {size : Int}

/-- A page of a shelf is fetched, unless the guard stops. -/
theorem Answers.settles_fetch (h : s.Answers σ c index query size) (hc : c.enabled = true)
    {g : Guard} (hg : g.Timed) (position : List Json) (timeout : Number) :
    Call.Settles g.Stops (g.fetch c index (query position) timeout : Call σ (List Hit))
      (· = (s.after position).take size.toNat) :=
  Guard.settles_fetch hc hg fun state timeout => h state timeout position

end Shelf

/-! ## An index in memory -/

/-- An index that holds these hits and nothing else. -/
inductive Memory (before : List Json → List Json → Bool) (hits : List Json) where
  | mk

namespace Memory

variable (before : List Json → List Json → Bool) (hits : List Json)

/-- How many hits a query wants. -/
def wanted (query : Json) : Nat :=
  match query.get "size" with
  | .num (.whole z) => z.toNat
  | _ => 0

/-- The hits for a query. -/
def found (query : Json) : List Json :=
  let position := (query.get "search_after").repeated
  (if position.isEmpty then hits
    else hits.filter fun h => before position (Hit.ofJson h).sort).take (wanted query)

instance : Responder (Memory before hits) where
  exchange m r :=
    ({ answer := .response 200 "" (.ok (.obj [("hits", .obj [("hits",
        .arr (found before hits (r.body.getD .null)))])]))
       elapsed := .double .zero
       cancels := false }, m)

variable {before hits}

/-- The position of a query is what its entries end with. -/
theorem repeated_get_search_after {entries : List (String × Json)}
    (h : ∀ e ∈ entries, e.1 ≠ "search_after") (position : List Json) :
    ((Json.obj (entries ++ if position.isEmpty then [] else
      [("search_after", .arr position)])).get "search_after").repeated = position := by
  have hvalue : ∀ rest, Json.valueOf "search_after" (entries ++ rest) =
      Json.valueOf "search_after" rest := by
    intro rest
    induction entries with
    | nil => rfl
    | cons e entries ih =>
      rw [List.forall_mem_cons] at h
      rw [List.cons_append, Json.valueOf, if_neg h.1, ih h.2]
  rw [Json.get, Json.entries_obj, hvalue]
  cases position with
  | nil => rfl
  | cons j rest => rfl

/-- **An index in memory answers every query** that says how much it wants and behind what. -/
theorem answers {s : Shelf} (hbefore : s.before = before) (hdocs : s.docs = hits.map Hit.ofJson)
    (c : Client) (index : String) {query : List Json → Json} {size : Int}
    (hsize : ∀ position, (query position).get "size" = .int size)
    (hafter : ∀ position, ((query position).get "search_after").repeated = position) :
    s.Answers (Memory before hits) c index query size := by
  intro state timeout position
  refine ⟨⟨_, _, _, rfl, rfl, ?_⟩, rfl⟩
  rw [Page.hits_ofJson _ (found before hits (query position)) rfl]
  simp only [found, wanted, hsize, hafter, Shelf.after, hbefore, hdocs, List.map_take, Json.int]
  split
  · rfl
  · rw [List.filter_map]
    rfl

/-- A hit in a table: its two sort values, and its source. -/
structure Row where
  first : String
  second : String
  source : List (String × Json)

/-- The sort values of a row. -/
def Row.sort (r : Row) : List Json := [.str r.first, .str r.second]

/-- A row as the hit it stands for. -/
def Row.hit (r : Row) : Json :=
  .obj [("sort", .arr r.sort), ("_source", .obj r.source)]

/-- Rows are in the order of their sort values. -/
def Ordered (rows : List Row) : Prop :=
  rows.Pairwise fun r r' => Shelf.pairBefore r.sort r'.sort = true

instance : DecidablePred Ordered := fun rows =>
  inferInstanceAs (Decidable (rows.Pairwise fun r r' => Shelf.pairBefore r.sort r'.sort = true))

/-- The shelf of rows in order. -/
def shelf (rows : List Row) (h : Ordered rows) : Shelf where
  before := Shelf.pairBefore
  docs := (rows.map Row.hit).map Hit.ofJson
  asymm := Shelf.pairBefore_asymm
  ordered := by
    rw [List.map_map, List.pairwise_map]
    exact h
  placed := by
    rintro d hd
    simp only [List.map_map, List.mem_map, Function.comp] at hd
    obtain ⟨r, -, rfl⟩ := hd
    exact List.cons_ne_nil _ _

/-- The index that holds rows. -/
abbrev Of (rows : List Row) : Type := Memory Shelf.pairBefore (rows.map Row.hit)

end Memory

end ArchiveCensus
