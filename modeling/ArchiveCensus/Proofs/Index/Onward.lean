import Mathlib.Data.List.Chain
import ArchiveCensus.Proofs.Index.Chain

/-!
# Proofs/Index/Onward — listings one after another go on, and stay in order

Each call of a chain of listings goes on from the cursor of the call before it.  Its own cursor, if
it has one, stands further on: the part of the shelf that it lists is not empty, and the cursor is
at the last document of it.  So the calls come to an end, and what they list is in order.

Two parts may have documents of one package, which is then in both listings.  It is at their
boundary: the last of the one, the first of the other, and alone in every listing between them.

* `LeadsOn` — a cursor stands further on than another.
* `Covers.isChain_leadsOn`, `Covers.pairwise_le` — cursors go on, and packages stay in order.
* `Recurs` — where a package is that is listed twice.
* `exists_goesOn` — a chain of listings ends, goes on and stays in order.
-/

namespace ArchiveCensus.Listing

variable {σ : Type}

/-! ## Cursors -/

/-- A cursor leads on to another one: the sort values of that one come after its own, if it has
any. -/
def LeadsOn (cursor next : String) : Prop :=
  ∃ after, Cursor.decode next = .ok (some after) ∧
    ∀ position, Cursor.decode cursor = .ok (some position) →
      Shelf.pairBefore position after = true

section

variable {limit : Int} {docs front seg rest : List Hit} {last : Hit} {l : Listing}
  {ls : List Listing} {k : Shelf} {cursor : String}

/-- There is one call for each part, and one for the rest. -/
theorem Covers.length_le (h : Covers limit docs ls) : ls.length ≤ docs.length + 1 := by
  induction h with
  | rest _ => exact Nat.succ_le_succ (Nat.zero_le _)
  | part hpart _ ih =>
    have hseg := List.length_pos_of_mem (List.mem_of_getLast? hpart.getLast?)
    rw [List.length_cons, List.length_append]
    omega

/-- **Each cursor leads on to the next one**, until one is empty. -/
theorem Covers.isChain_leadsOn (h : Covers limit docs ls) (hk : k.Sorted)
    (hdocs : k.docs = front ++ docs)
    (hbehind : ∀ position, Cursor.decode cursor = .ok (some position) →
      ∀ d ∈ docs, k.before position d.sort = true) :
    List.IsChain (fun cursor next => next ≠ "" → LeadsOn cursor next)
      (cursor :: ls.map nextCursor) := by
  induction h generalizing front cursor with
  | rest hrest =>
    rw [List.map_singleton, List.isChain_cons_cons]
    exact ⟨fun hne => absurd hrest.nextCursor hne, List.isChain_singleton _⟩
  | @part seg rest last l ls hpart _ ih =>
    have hlast : last ∈ k.docs := by simp [hdocs, List.mem_of_getLast? hpart.getLast?]
    have hdecode := hk.decode_sort hlast
    rw [← hpart.nextCursor] at hdecode
    have hdocs' : k.docs = (front ++ seg) ++ rest := by simpa using hdocs
    rw [List.map_cons, List.isChain_cons_cons]
    refine ⟨fun _ => ⟨last.sort, hdecode, fun position hposition => ?_⟩, ih hdocs' ?_⟩
    · rw [← hk.before]
      exact hbehind position hposition last (by simp [List.mem_of_getLast? hpart.getLast?])
    · -- the next call starts at the last document of the part, so the rest stands behind its cursor
      intro position hposition d hd
      rw [hdecode, Except.ok.injEq, Option.some.injEq] at hposition
      subst hposition
      rw [← k.after_last hdocs hpart.getLast?] at hd
      exact ((Shelf.mem_after_iff (k.placed last hlast)).1 hd).2

/-! ## Packages -/

/-- A part has a package in its listing. -/
theorem IsPart.items_ne_nil (h : IsPart limit seg last l) (hk : k.Sorted) (hlimit : 1 ≤ limit)
    (hdocs : k.docs = front ++ (seg ++ rest)) : l.items ≠ [] := by
  have hmem := List.mem_of_getLast? h.getLast?
  have hne := hk.aipUuid_itemOf_ne (d := last) (by simp [hdocs, hmem])
  have hlists : Lists (gather seg []) (itemOf last).aipUuid :=
    lists_gather_nil.2 ⟨hne, last, hmem, rfl⟩
  obtain ⟨item, hitem, -⟩ := hlists
  rw [h.items, Ne, List.take_eq_nil_iff, not_or]
  exact ⟨by omega, List.ne_nil_of_mem hitem⟩

/-- Only the last listing has nothing. -/
theorem Covers.items_ne_nil (h : Covers limit docs ls) (hk : k.Sorted) (hlimit : 1 ≤ limit)
    (hdocs : k.docs = front ++ docs) : ∀ l ∈ ls.dropLast, l.items ≠ [] := by
  induction h generalizing front with
  | rest _ => exact fun _ hnone => nomatch hnone
  | @part seg rest last l ls hpart hrest ih =>
    have hdocs' : k.docs = (front ++ seg) ++ rest := by simpa using hdocs
    have hne : ls ≠ [] := by
      obtain ⟨_, hlast, -⟩ := hrest.getLast?
      exact List.ne_nil_of_mem (List.mem_of_getLast? hlast)
    rw [List.dropLast_cons_of_ne_nil hne, List.forall_mem_cons]
    exact ⟨hpart.items_ne_nil hk hlimit hdocs, ih hdocs'⟩

/-- Each listing is in order, -/
theorem Covers.ascending (h : Covers limit docs ls) (hk : k.Sorted)
    (hdocs : k.docs = front ++ docs) : ∀ l ∈ ls, Ascending l.items := by
  induction h generalizing front with
  | @rest docs l hrest =>
    have hall : k.docs = front ++ (docs ++ []) := by rwa [List.append_nil]
    rw [List.forall_mem_singleton, hrest.items]
    exact hk.ascending_gather hall
  | @part seg rest last l ls hpart _ ih =>
    have hdocs' : k.docs = (front ++ seg) ++ rest := by simpa using hdocs
    exact List.forall_mem_cons.2 ⟨hpart.ascending hk hdocs, ih hdocs'⟩

/-- **and so are the listings**: no package comes before one of an earlier listing. -/
theorem Covers.pairwise_le (h : Covers limit docs ls) (hk : k.Sorted)
    (hdocs : k.docs = front ++ docs) :
    ls.Pairwise fun l l' => ∀ i ∈ l.items, ∀ j ∈ l'.items, i.aipUuid ≤ j.aipUuid := by
  induction h generalizing front with
  | rest _ => exact List.pairwise_singleton _ _
  | @part seg rest last l ls hpart hrest ih =>
    have hdocs' : k.docs = (front ++ seg) ++ rest := by simpa using hdocs
    refine List.pairwise_cons.2 ⟨fun l' hl' i hi j hj => ?_, ih hdocs'⟩
    obtain ⟨d, hd, hi⟩ := hpart.exists_doc ⟨i, hi, rfl⟩
    obtain ⟨e, he, hj⟩ := hrest.exists_doc hl' ⟨j, hj, rfl⟩
    have hle := hk.pairwise_le
    rw [hdocs', List.pairwise_append] at hle
    rw [← hi, ← hj]
    exact hle.2.2 d (List.mem_append_right front hd) e he

end

/-! ## Packages that recur -/

section

variable {items : List Item} {aipUuid : String}

/-- A package that no other one comes after is the last of sorted items, -/
theorem Ascending.getLast?_eq (hitems : Ascending items) (h : Lists items aipUuid)
    (hle : ∀ i ∈ items, i.aipUuid ≤ aipUuid) :
    items.getLast?.map Item.aipUuid = some aipUuid := by
  obtain ⟨item, hitem, -⟩ := id h
  have hlast := List.getLast?_eq_some_getLast (List.ne_nil_of_mem hitem)
  rw [hlast, Option.map_some, Option.some.injEq]
  refine String.le_antisymm (hle _ (List.getLast_mem _)) (String.not_lt.1 fun hlt => ?_)
  exact not_lists_of_lt hitems hlast hlt h

/-- one that no other one comes before is the first of them, -/
theorem Ascending.head?_eq (hitems : Ascending items) (h : Lists items aipUuid)
    (hle : ∀ i ∈ items, aipUuid ≤ i.aipUuid) : items.head?.map Item.aipUuid = some aipUuid := by
  obtain ⟨item, hitem, rfl⟩ := h
  cases items with
  | nil => cases hitem
  | cons first rest =>
    rw [List.head?_cons, Option.map_some, Option.some.injEq]
    refine String.le_antisymm ?_ (hle first List.mem_cons_self)
    obtain rfl | hrest := List.mem_cons.1 hitem
    · exact String.le_refl _
    · exact String.not_lt.1 (String.lt_asymm ((List.pairwise_cons.1 hitems).1 item hrest))

/-- and one that all of them are of is the only one. -/
theorem Ascending.map_eq_singleton (hitems : Ascending items) (hne : items ≠ [])
    (h : ∀ i ∈ items, i.aipUuid = aipUuid) : items.map Item.aipUuid = [aipUuid] := by
  cases items with
  | nil => exact absurd rfl hne
  | cons first rest =>
    cases rest with
    | nil => rw [List.map_singleton, h first List.mem_cons_self]
    | cons second rest =>
      have hlt := (List.pairwise_cons.1 hitems).1 second List.mem_cons_self
      rw [h first (by simp), h second (by simp)] at hlt
      exact absurd hlt (String.lt_irrefl _)

end

/-- A package recurs at the boundary of two listings: it is the last of the one and the first of the
other, and all that there is in the listings between them. -/
structure Recurs (l : Listing) (between : List Listing) (l' : Listing) (aipUuid : String) :
    Prop where
  last : l.items.getLast?.map Item.aipUuid = some aipUuid
  alone : ∀ m ∈ between, m.items.map Item.aipUuid = [aipUuid]
  first : l'.items.head?.map Item.aipUuid = some aipUuid

/-- **A package that two listings in order have is at their boundary.** -/
theorem recurs_of_lists {ls front between rest : List Listing} {l l' : Listing} {aipUuid : String}
    (hle : ls.Pairwise fun l l' => ∀ i ∈ l.items, ∀ j ∈ l'.items, i.aipUuid ≤ j.aipUuid)
    (hascending : ∀ l ∈ ls, Ascending l.items) (hne : ∀ l ∈ ls.dropLast, l.items ≠ [])
    (hls : ls = front ++ l :: (between ++ l' :: rest)) (h : Lists l.items aipUuid)
    (h' : Lists l'.items aipUuid) : Recurs l between l' aipUuid := by
  obtain ⟨i, hi, rfl⟩ := id h
  obtain ⟨j, hj, hsame⟩ := id h'
  subst hls
  rw [List.pairwise_append, List.pairwise_cons, List.pairwise_append, List.pairwise_cons] at hle
  obtain ⟨-, ⟨hl, -, -, hbetween⟩, -⟩ := hle
  refine ⟨(hascending l (by simp)).getLast?_eq h fun x hx => ?_, fun m hm => ?_,
    (hascending l' (by simp)).head?_eq h' fun x hx => ?_⟩
  · exact hsame ▸ hl l' (by simp) x hx j hj
  · -- a listing with one after it has some package, and all of its packages are this one
    have hdrop : m ∈ (front ++ l :: (between ++ l' :: rest)).dropLast := by
      rw [List.dropLast_append_cons, ← List.cons_append, List.dropLast_append_cons]
      simp [hm]
    refine (hascending m (by simp [hm])).map_eq_singleton (hne m hdrop) fun x hx => ?_
    refine String.le_antisymm ?_ (hl m (by simp [hm]) i hi x hx)
    exact hsame ▸ hbetween m hm l' List.mem_cons_self x hx j hj
  · exact hl l' (by simp) i hi x hx

/-- A chain of listings goes on: it comes to an end, with no more calls than there are documents and
one, each cursor leads on to the next, and the packages stay in order. -/
structure GoesOn (k : Shelf) (ls : List Listing) : Prop where
  length_le : ls.length ≤ k.docs.length + 1
  ends : ∃ l, ls.getLast? = some l ∧ l.nextCursor = ""
  leadsOn : List.IsChain (fun cursor next => next ≠ "" → LeadsOn cursor next)
    ("" :: ls.map nextCursor)
  ascending : ∀ l ∈ ls, Ascending l.items
  /-- No package comes before the last one of the listing before. -/
  le : ls.IsChain fun l l' =>
    ∀ i ∈ l.items.getLast?, ∀ j ∈ l'.items.head?, i.aipUuid ≤ j.aipUuid
  recurs : ∀ {front between rest : List Listing} {l l' : Listing} {aipUuid : String},
    ls = front ++ l :: (between ++ l' :: rest) → Lists l.items aipUuid →
      Lists l'.items aipUuid → Recurs l between l' aipUuid

section

variable [Responder σ] {c : Client} {w : Wish} {limits : Limits} {timeout : Number} {k : Shelf}

/-- **A chain of listings goes on**: listing from the start and going on from each cursor comes to
an end, no cursor stands still, and packages stay in order and recur only from one listing to the
next. -/
theorem exists_goesOn (h : Reads σ c w limits k) {guards : List Guard}
    (htimed : ∀ guard ∈ guards, guard.Timed) (hcalls : k.docs.length < guards.length)
    {ch : Channel σ} (hquiet : ∀ cause, ((chain c w limits timeout guards "").run.run ch).1 ≠
      .error (.scanCancelled cause)) :
    ∃ ls, ((chain c w limits timeout guards "").run.run ch).1 = .ok ls ∧ GoesOn k ls := by
  have hdocs : k.docs = [] ++ k.docs := rfl
  obtain ⟨ls, hrun, hcovers⟩ | ⟨f, hrun, guard, -, _, _, cause, -, rfl⟩ :=
    settles_chain h timeout htimed hcalls hdocs Cursor.decode_empty k.after_nil ch
  · have hle := hcovers.pairwise_le h.sorted hdocs
    have hascending := hcovers.ascending h.sorted hdocs
    have hne := hcovers.items_ne_nil h.sorted (Limits.one_le_clamp _ _ _) hdocs
    refine ⟨ls, hrun, hcovers.length_le, hcovers.getLast?, ?_, hascending, ?_, ?_⟩
    · refine hcovers.isChain_leadsOn h.sorted hdocs fun position hposition => ?_
      rw [Cursor.decode_empty] at hposition
      cases hposition
    · exact hle.isChain.imp fun _ _ hall i hi j hj =>
        hall i (List.mem_of_getLast? hi) j (List.mem_of_head? hj)
    · exact fun hls => recurs_of_lists hle hascending hne hls
  · exact absurd hrun (hquiet cause)

end

/-- A chain of listings of two packages goes on. -/
theorem exists_goesOn_twoPackages :
    ∃ ls, TwoPackages.out = .ok ls ∧ GoesOn TwoPackages.shelf ls :=
  exists_goesOn TwoPackages.reads TwoPackages.timed (by decide) TwoPackages.out_ne

end ArchiveCensus.Listing
