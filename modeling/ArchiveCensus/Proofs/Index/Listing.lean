import Mathlib.Data.List.Basic
import ArchiveCensus.Index.Listing
import ArchiveCensus.Proofs.Index.Shelf

/-!
# Proofs/Index/Listing — the packages that one listing finds

A listing goes through a part of the shelf and keeps each package at its first document there.  The
part ends with a page, the packages with the limit: packages that come after the limit in the last
page are in the part, but not in the listing.

* `collect_eq_take` — what a page adds is what all its hits would add, up to the limit.
* `lists_gather`, `ascending_gather` — all packages of the hits, in order.
* `settles_list` — what one call makes of the documents that stand behind its cursor.
-/

namespace ArchiveCensus.Listing

variable {σ : Type}

/-! ## Packages -/

/-- Items have one of a package. -/
def Lists (items : List Item) (aipUuid : String) : Prop :=
  ∃ item ∈ items, item.aipUuid = aipUuid

/-- Items are sorted by their packages. -/
def Ascending (items : List Item) : Prop :=
  items.Pairwise fun i j => i.aipUuid < j.aipUuid

variable {items : List Item} {h : Hit} {aipUuid : String}

theorem isNew_iff {item : Item} :
    isNew items item = true ↔ item.aipUuid ≠ "" ∧ ¬ Lists items item.aipUuid := by
  simp [isNew, Lists]

theorem lists_append {later : List Item} :
    Lists (items ++ later) aipUuid ↔ Lists items aipUuid ∨ Lists later aipUuid := by
  simp [Lists, or_and_right, exists_or]

theorem lists_singleton {item : Item} : Lists [item] aipUuid ↔ item.aipUuid = aipUuid := by
  simp [Lists]

/-- In sorted items that end with a package, no later one is listed. -/
theorem not_lists_of_lt {last : Item} (hitems : Ascending items)
    (hlast : items.getLast? = some last) (h : last.aipUuid < aipUuid) :
    ¬ Lists items aipUuid := by
  rintro ⟨item, hitem, rfl⟩
  obtain ⟨init, rfl⟩ := List.getLast?_eq_some_iff.1 hlast
  rw [Ascending, List.pairwise_append] at hitems
  obtain hinit | hsame := List.mem_append.1 hitem
  · exact String.lt_asymm h (hitems.2.2 item hinit last (by simp))
  · obtain rfl : item = last := by simpa using hsame
    exact String.lt_irrefl _ h

/-- A package of sorted items is among the first of them, or these are as many as may be and the
last of them comes before it. -/
theorem lists_take_or {n : Nat} (hn : 0 < n) (hitems : Ascending items) (h : Lists items aipUuid) :
    Lists (items.take n) aipUuid ∨ (items.take n).length = n ∧
      ∃ last, (items.take n).getLast? = some last ∧ last.aipUuid < aipUuid := by
  rw [← List.take_append_drop n items, Ascending, List.pairwise_append] at hitems
  rw [← List.take_append_drop n items, lists_append] at h
  obtain h | ⟨item, hitem, rfl⟩ := h
  · exact .inl h
  · have hlength : n < items.length := by
      have hpos := List.length_pos_of_mem hitem
      rw [List.length_drop] at hpos
      omega
    have hfull : (items.take n).length = n := List.length_take_of_le (Nat.le_of_lt hlength)
    have hne : items.take n ≠ [] := List.length_pos_iff.1 (by omega)
    have hlast : (items.take n).getLast? = some ((items.take n).getLast hne) :=
      List.getLast?_eq_some_getLast hne
    exact .inr ⟨hfull, _, hlast, hitems.2.2 _ (List.getLast_mem hne) item hitem⟩

/-! ## Gathering -/

/-- The items with that of a hit, where it is new. -/
def add (items : List Item) (h : Hit) : List Item :=
  if isNew items (itemOf h) then items ++ [itemOf h] else items

/-- The items with those of hits, as if there was no limit. -/
def gather (hits : List Hit) (items : List Item) : List Item :=
  hits.foldl add items

theorem gather_cons (h : Hit) (rest : List Hit) (items : List Item) :
    gather (h :: rest) items = gather rest (add items h) := rfl

theorem gather_append (hits later : List Hit) (items : List Item) :
    gather (hits ++ later) items = gather later (gather hits items) :=
  List.foldl_append

theorem prefix_add (items : List Item) (h : Hit) : items <+: add items h := by
  unfold add
  split
  · exact List.prefix_append ..
  · exact List.prefix_refl _

theorem prefix_gather : ∀ (hits : List Hit) (items : List Item), items <+: gather hits items
  | [], items => List.prefix_refl items
  | h :: rest, items => (prefix_add items h).trans (prefix_gather rest (add items h))

/-- **What a page adds is what all its hits would add, up to the limit.** -/
theorem collect_eq_take {limit : Int} :
    ∀ (hits : List Hit) {items : List Item}, (items.length : Int) < limit →
      collect limit hits items = (gather hits items).take limit.toNat
  | [], items, hlimit => by
      have hlength : items.length ≤ limit.toNat := by omega
      rw [collect, gather, List.foldl_nil, List.take_of_length_le hlength]
  | h :: rest, items, hlimit => by
      rw [collect, gather_cons, add]
      split
      · dsimp only
        split
        · rename_i hfull
          have hlength : limit.toNat = (items ++ [itemOf h]).length := by
            rw [List.length_append, List.length_singleton] at hfull ⊢
            omega
          rw [hlength]
          exact List.prefix_iff_eq_take.1 (prefix_gather rest _)
        · exact collect_eq_take rest (by omega)
      · exact collect_eq_take rest hlimit

theorem lists_add :
    Lists (add items h) aipUuid ↔
      Lists items aipUuid ∨ aipUuid ≠ "" ∧ (itemOf h).aipUuid = aipUuid := by
  unfold add
  split
  · rename_i hnew
    rw [lists_append, lists_singleton]
    obtain ⟨hne, -⟩ := isNew_iff.1 hnew
    constructor
    · rintro (hitems | rfl)
      · exact .inl hitems
      · exact .inr ⟨hne, rfl⟩
    · rintro (hitems | ⟨-, hsame⟩)
      · exact .inl hitems
      · exact .inr hsame
  · rename_i hold
    constructor
    · exact .inl
    · rintro (hitems | ⟨hne, rfl⟩)
      · exact hitems
      · by_contra hnot
        exact hold (isNew_iff.2 ⟨hne, hnot⟩)

/-- **All packages of the hits are gathered**, those without a name excepted. -/
theorem lists_gather :
    ∀ {hits : List Hit} {items : List Item}, Lists (gather hits items) aipUuid ↔
      Lists items aipUuid ∨ aipUuid ≠ "" ∧ ∃ h ∈ hits, (itemOf h).aipUuid = aipUuid
  | [], items => by simp [gather]
  | h :: rest, items => by
      rw [gather_cons, lists_gather, lists_add]
      simp only [List.mem_cons, exists_eq_or_imp, and_or_left, or_assoc]

theorem lists_gather_nil {hits : List Hit} : Lists (gather hits []) aipUuid ↔
    aipUuid ≠ "" ∧ ∃ h ∈ hits, (itemOf h).aipUuid = aipUuid := by
  have hnil : ¬ Lists [] aipUuid := by simp [Lists]
  rw [lists_gather, or_iff_right hnil]

theorem mem_add {item : Item} (hitem : item ∈ add items h) : item ∈ items ∨ item = itemOf h := by
  unfold add at hitem
  split at hitem
  · simpa using hitem
  · exact .inl hitem

/-- One more hit that comes no earlier keeps the order. -/
theorem ascending_add (hitems : Ascending items)
    (hle : ∀ item ∈ items, item.aipUuid ≤ (itemOf h).aipUuid) : Ascending (add items h) := by
  unfold add
  split
  · rename_i hnew
    obtain ⟨-, hnot⟩ := isNew_iff.1 hnew
    refine List.pairwise_append.2 ⟨hitems, List.pairwise_singleton .., fun i hi j hj => ?_⟩
    obtain rfl : j = itemOf h := List.mem_singleton.1 hj
    refine String.not_le.1 fun hge => hnot ⟨i, hi, ?_⟩
    exact String.le_antisymm (hle i hi) hge
  · exact hitems

/-- **Packages of sorted hits are gathered in order.** -/
theorem ascending_gather :
    ∀ {hits : List Hit} {items : List Item},
      hits.Pairwise (fun h h' => (itemOf h).aipUuid ≤ (itemOf h').aipUuid) → Ascending items →
      (∀ item ∈ items, ∀ h ∈ hits, item.aipUuid ≤ (itemOf h).aipUuid) →
      Ascending (gather hits items)
  | [], items, _, hitems, _ => hitems
  | h :: rest, items, hhits, hitems, hle => by
      rw [List.pairwise_cons] at hhits
      rw [gather_cons]
      refine ascending_gather hhits.2 ?_ ?_
      · exact ascending_add hitems fun item hitem => hle item hitem h (by simp)
      · intro item hitem h' hh'
        obtain hitem | rfl := mem_add hitem
        · exact hle item hitem h' (by simp [hh'])
        · exact hhits.1 h' hh'

/-! ## From page to page -/

theorem Plan.get_size_query (p : Plan) (position : List Json) :
    (p.query position).get "size" = .int p.size := by
  simp [query, Json.get, Json.valueOf]

theorem Plan.get_search_after_query (p : Plan) (position : List Json) :
    ((p.query position).get "search_after").repeated = position :=
  Memory.repeated_get_search_after (by simp) position

section

variable [Responder σ] {k : Shelf} {p : Plan}

/-- A listing that a shelf is enough for: its index answers it from the shelf, with pages that are
not empty. -/
structure Plan.Reads (σ : Type) [Responder σ] (p : Plan) (k : Shelf) : Prop where
  enabled : p.client.enabled = true
  timed : p.guard.Timed
  answers : k.Answers σ p.client p.index p.query p.size
  one_le_limit : 1 ≤ p.limit
  one_le_size : 1 ≤ p.size

/-- What a listing makes of the documents before it: it goes through a part of them and stands at
the last one, or through all of them without coming to the limit. -/
def Progress.Ends (limit : Int) (docs : List Hit) (done : Progress) : Prop :=
  ∃ seg rest, docs = seg ++ rest ∧ done.items = (gather seg []).take limit.toNat ∧
    (rest = [] ∧ (done.items.length : Int) < limit ∧ done.position = [] ∨
      ∃ last, seg.getLast? = some last ∧ done.position = last.sort)

/-- Fewer items than the limit are all of them. -/
theorem eq_gather_of_length_lt {limit : Int} {seg : List Hit}
    (hitems : items = (gather seg []).take limit.toNat) (hlimit : (items.length : Int) < limit) :
    items = gather seg [] := by
  rw [hitems, List.length_take] at hlimit
  rw [hitems, List.take_of_length_le (by omega)]

/-- The items of a part before the limit, and those of a page after it, are those of both. -/
theorem collect_gather {limit : Int} {seg page : List Hit}
    (hitems : items = (gather seg []).take limit.toNat) (hlimit : (items.length : Int) < limit) :
    collect limit page items = (gather (seg ++ page) []).take limit.toNat := by
  rw [collect_eq_take page hlimit, gather_append, eq_gather_of_length_lt hitems hlimit]

/-- From a position on, a listing goes through a part of what stands behind it. -/
theorem settles_advance (h : p.Reads σ k) :
    ∀ (n : Nat) {front seg rest : List Hit} {position : List Json} {done : Progress},
      k.docs = front ++ (seg ++ rest) → k.after position = rest →
      done.items = (gather seg []).take p.limit.toNat →
      (seg = [] ∧ n ≠ 0 ∨ ∃ last, seg.getLast? = some last ∧ done.position = last.sort) →
      Call.Settles p.guard.Stops (advance p n position done : Call σ Progress)
        (Progress.Ends p.limit (seg ++ rest))
  | 0, _, seg, rest, _, done, _, _, hitems, hlast => by
      obtain ⟨-, hne⟩ | hlast := hlast
      · exact absurd rfl hne
      · exact Call.settles_pure ⟨seg, rest, rfl, hitems, .inr hlast⟩
  | n + 1, front, seg, rest, position, done, hdocs, hafter, hitems, hlast => by
      have hone := h.one_le_limit
      unfold advance
      split
      · rename_i hfull
        -- an item was found, so a page was fetched before
        obtain ⟨rfl, -⟩ | hlast := hlast
        · have hnil : done.items = [] := by simpa [gather] using hitems
          rw [hnil, List.length_nil] at hfull
          omega
        · exact Call.settles_pure ⟨seg, rest, rfl, hitems, .inr hlast⟩
      · rename_i hmore
        rw [Int.not_le] at hmore
        refine (h.answers.settles_fetch h.enabled h.timed position p.timeout).bind ?_
        rintro page hpage
        rw [hafter] at hpage
        have hsize := h.one_le_size
        cases hend : page.getLast? with
        | none =>
          obtain rfl := List.getLast?_eq_none_iff.1 hend
          have hrest : rest = [] := by
            obtain h | h := List.take_eq_nil_iff.1 hpage.symm
            · omega
            · exact h
          exact Call.settles_pure ⟨seg, rest, rfl, hitems, .inl ⟨hrest, hmore, rfl⟩⟩
        | some last =>
          obtain ⟨later, rfl⟩ : ∃ later, rest = page ++ later :=
            ⟨_, (hpage ▸ List.take_append_drop p.size.toNat rest).symm⟩
          have hsort : last.sort ≠ [] :=
            k.placed last (by simp [hdocs, List.mem_of_getLast? hend])
          have hdocs' : k.docs = front ++ ((seg ++ page) ++ later) := by simpa using hdocs
          have hbehind : k.docs = (front ++ seg) ++ (page ++ later) := by simpa using hdocs
          dsimp only
          rw [if_neg (by simpa using hsort), ← List.append_assoc]
          exact settles_advance h n hdocs' (k.after_last hbehind hend)
            (collect_gather hitems hmore) (.inr ⟨last, by simp [hend], rfl⟩)

/-! ## A call -/

/-- What a call plans to ask for. -/
def planned (c : Client) (w : Wish) (limits : Limits) (guard : Guard) (timeout : Number) : Plan :=
  let limit := Limits.clamp w.limit limits.listDefault limits.listMax
  { client := c, index := w.index, limit, size := limit * limits.listOverfetch, guard, timeout }

/-- A listing of all documents: it comes to their end before the limit, and has no cursor. -/
structure IsRest (limit : Int) (docs : List Hit) (l : Listing) : Prop where
  items : l.items = gather docs []
  length_lt : (l.items.length : Int) < limit
  nextCursor : l.nextCursor = ""

/-- A listing of a part of the documents, up to the limit; its cursor stands after the part. -/
structure IsPart (limit : Int) (seg : List Hit) (last : Hit) (l : Listing) : Prop where
  limit_eq : l.limit = limit
  getLast? : seg.getLast? = some last
  items : l.items = (gather seg []).take limit.toNat
  nextCursor : l.nextCursor = Cursor.encode last.sort

/-- What a call makes of the documents behind its cursor. -/
def Ends (limit : Int) (docs : List Hit) (l : Listing) : Prop :=
  IsRest limit docs l ∨ ∃ seg rest last, docs = seg ++ rest ∧ IsPart limit seg last l

/-- **A call lists the rest of the documents behind its cursor or a part of them**, unless its guard
stops. -/
theorem settles_list {c : Client} {w : Wish} {limits : Limits} {guard : Guard} {timeout : Number}
    (h : (planned c w limits guard timeout).Reads σ k) (hpages : 1 ≤ limits.listMaxPages)
    {front rest : List Hit} {position : Option (List Json)} (hdocs : k.docs = front ++ rest)
    (hcursor : Cursor.decode w.cursor = .ok position) (hafter : k.after (position.getD []) = rest) :
    Call.Settles guard.Stops (list c w limits guard timeout : Call σ Listing)
      (Ends (planned c w limits guard timeout).limit rest) := by
  have hdecode : Call.Settles guard.Stops
      (Call.ofExcept (Cursor.decode w.cursor) : Call σ (Option (List Json))) (· = position) := by
    rw [hcursor]
    exact Call.settles_pure rfl
  unfold list
  refine hdecode.bind ?_
  rintro _ rfl
  have hstart : (⟨[], 0, []⟩ : Progress).items =
      (gather [] []).take (planned c w limits guard timeout).limit.toNat := List.take_nil.symm
  have hadvance := settles_advance h limits.listMaxPages.toNat hdocs hafter hstart
    (.inl ⟨rfl, by omega⟩)
  rw [List.nil_append] at hadvance
  refine hadvance.bind fun done hdone => Call.settles_pure ?_
  obtain ⟨seg, later, rfl, hitems, ⟨rfl, hmore, hposition⟩ | ⟨last, hlast, hposition⟩⟩ := hdone
  · rw [List.append_nil]
    exact .inl ⟨eq_gather_of_length_lt hitems hmore, hmore, by simp [hposition]⟩
  · have hsort : last.sort ≠ [] := k.placed last (by simp [hdocs, List.mem_of_getLast? hlast])
    exact .inr ⟨seg, later, last, rfl, rfl, hlast, hitems, by simp [hposition, hsort]⟩

end

end ArchiveCensus.Listing
