import Mathlib.Data.List.Induction
import ArchiveCensus.Index.Script
import ArchiveCensus.Proofs.Index.Cursor
import ArchiveCensus.Proofs.Index.Listing
import ArchiveCensus.Proofs.Index.Fetch

/-!
# Proofs/Index/Listed — what a listing makes of any pages

Whatever the index answers, a listing is made of the pages it was answered with: their packages in
the order in which they first come, up to the limit.  It goes on to the next page unless it has
reached the limit, the page leaves off nowhere, or it has fetched as many pages as it may.

* `map_aipUuid_gather`, `find?_of_mem_gather` — the packages of hits, and where each of them is
  first.
* `run_advance` — going from page to page, from any pages on.
* `exists_isOf` — a listing, the requests that were sent for it and the pages they were answered
  with.
-/

namespace ArchiveCensus.Listing

variable {σ : Type}

/-! ## Packages in the order in which they first come -/

/-- The different packages of hits, those without a name excepted. -/
def packages (hits : List Hit) : List String :=
  ((hits.map fun h => (itemOf h).aipUuid).filter (!·.isEmpty)).eraseDups

theorem gather_concat (hits : List Hit) (h : Hit) (items : List Item) :
    gather (hits ++ [h]) items = add (gather hits items) h := gather_append hits [h] items

/-- One more text is one more different text, unless it was there before. -/
theorem eraseDups_concat (texts : List String) (s : String) :
    (texts ++ [s]).eraseDups = if s ∈ texts then texts.eraseDups else texts.eraseDups ++ [s] := by
  rw [List.eraseDups_append]
  split
  · rename_i h
    simp [List.removeAll, h]
  · rename_i h
    simp [List.removeAll, h, List.eraseDups_cons]

/-- **All packages are gathered in the order in which they first come.** -/
theorem map_aipUuid_gather (hits : List Hit) :
    (gather hits []).map Item.aipUuid = packages hits := by
  induction hits using List.reverseRecOn with
  | nil => rfl
  | append_singleton hits h ih =>
    have hlisted : Lists (gather hits []) (itemOf h).aipUuid ↔
        (itemOf h).aipUuid ∈ packages hits := by
      rw [← ih, List.mem_map]
      rfl
    rw [packages, List.mem_eraseDups] at hlisted
    rw [gather_concat, add, packages, List.map_append, List.filter_append, List.map_singleton]
    split
    · rename_i hnew
      obtain ⟨hne, hnot⟩ := isNew_iff.1 hnew
      rw [List.filter_cons_of_pos (by simpa using hne), List.filter_nil, eraseDups_concat,
        if_neg (hlisted.not.1 hnot), List.map_append, ih]
      rfl
    · rename_i hold
      rw [ih]
      by_cases hne : (itemOf h).aipUuid = ""
      · rw [List.filter_cons_of_neg (by simp [hne]), List.filter_nil, List.append_nil]
        rfl
      · have hmem := hlisted.1 (by_contra fun hnot => hold (isNew_iff.2 ⟨hne, hnot⟩))
        rw [List.filter_cons_of_pos (by simpa using hne), List.filter_nil, eraseDups_concat,
          if_pos hmem]
        rfl

/-- Up to the limit, items are as many as the packages. -/
theorem length_eq_of_take {limit : Int} {items : List Item} {hits : List Hit}
    (hitems : items = (gather hits []).take limit.toNat) :
    items.length = min limit.toNat (packages hits).length := by
  rw [hitems, List.length_take, ← map_aipUuid_gather, List.length_map]

/-! ## From page to page -/

/-- A listing is over after these pages: the limit is reached, the last page leaves off nowhere, or
they are as many as may be fetched. -/
def Over (limit : Int) (most : Nat) (pages : List (List Hit)) : Prop :=
  limit ≤ (packages pages.flatten).length ∨
    (∃ page, pages.getLast? = some page ∧ lastSort page = []) ∨ pages.length = most

/-- What has been made of the pages fetched so far. -/
structure Progress.Made (limit : Int) (fetched : List (List Hit)) (done : Progress) : Prop where
  items : done.items = (gather fetched.flatten []).take limit.toNat
  pages : done.pages = fetched.length
  position : done.position = leftOff [] fetched

/-- What the query of a listing goes on with. -/
def Plan.pager (p : Plan) : Pager :=
  { client := p.client, index := p.index, query := p.query, guard := p.guard, timeout := p.timeout }

theorem Plan.lookup_search_after (p : Plan) (position : List Json) :
    (p.pager.query position).entries.lookup "search_after" = carried position :=
  ArchiveCensus.lookup_search_after (by simp) position

variable {p : Plan} {before pages : List (List Hit)} {done out : Progress}

/-- Pages that left off somewhere, without reaching the limit, are not all. -/
theorem not_over {n : Nat} (hmade : done.Made p.limit before)
    (hgoes : ∀ page, before.getLast? = some page → lastSort page ≠ [])
    (hmore : (done.items.length : Int) < p.limit) :
    ¬ Over p.limit (before.length + (n + 1)) before := by
  rintro (hfull | ⟨page, hlast, hend⟩ | hmost)
  · have hlength := length_eq_of_take hmade.items
    omega
  · exact hgoes page hlast hend
  · omega

/-- What one more page makes of what was made before. -/
def Progress.next (limit : Int) (done : Progress) (page : List Hit) : Progress :=
  ⟨collect limit page done.items, done.pages + 1, lastSort page⟩

theorem Progress.Made.next (hmade : done.Made p.limit before)
    (hmore : (done.items.length : Int) < p.limit) (page : List Hit) :
    (done.next p.limit page).Made p.limit (before ++ [page]) where
  items := by
    rw [List.flatten_append, List.flatten_singleton]
    exact collect_gather hmade.items hmore
  pages := by
    rw [List.length_append, List.length_singleton, ← hmade.pages]
    rfl
  position := by
    rw [leftOff, List.map_append, List.map_singleton, List.getLastD_concat]
    rfl

variable [Responder σ] {position : List Json} {ch ch' : Channel σ}

/-- **A step from page to page**: it stops at the limit, or fetches a page and stops where that
fails or leaves off nowhere, and else goes on from there. -/
theorem run_advance_succ (p : Plan) (n : Nat) (position : List Json) (done : Progress)
    (ch : Channel σ) :
    (advance p (n + 1) position done : Call σ Progress).run.run ch =
      if p.limit ≤ done.items.length then (.ok done, ch)
      else match (p.pager.fetch position).run.run ch with
        | (.error f, ch₁) => (.error f, ch₁)
        | (.ok page, ch₁) =>
            if lastSort page = [] then (.ok (done.next p.limit page), ch₁)
            else (advance p n (lastSort page) (done.next p.limit page) :
              Call σ Progress).run.run ch₁ := by
  have hpager : p.guard.fetch p.client p.index (p.query position) p.timeout =
      (p.pager.fetch position : Call σ (List Hit)) := rfl
  rw [advance]
  split
  · rfl
  · rw [hpager, Call.run_bind]
    obtain ⟨res, ch₁⟩ := (p.pager.fetch position).run.run ch
    cases res with
    | error f => rfl
    | ok page =>
      dsimp only
      cases hlast : page.getLast? with
      | none =>
        obtain rfl := List.getLast?_eq_none_iff.1 hlast
        rfl
      | some last =>
        rw [lastSort_of_getLast? hlast]
        dsimp only
        by_cases hend : last.sort = []
        · rw [if_pos hend, if_pos (by simpa using hend), Progress.next,
            lastSort_of_getLast? hlast]
          rfl
        · rw [if_neg hend, if_neg (by simpa using hend), Progress.next,
            lastSort_of_getLast? hlast]

/-- Everything that a step from page to page can do that fails at nothing. -/
theorem run_advance_cases {n : Nat}
    (h : (advance p (n + 1) position done : Call σ Progress).run.run ch = (.ok out, ch')) :
    (p.limit ≤ done.items.length ∧ out = done ∧ ch' = ch) ∨
      (done.items.length : Int) < p.limit ∧ ∃ page ch₁,
        (p.pager.fetch position).run.run ch = (.ok page, ch₁) ∧
        (lastSort page = [] ∧ out = done.next p.limit page ∧ ch' = ch₁ ∨
          lastSort page ≠ [] ∧ (advance p n (lastSort page) (done.next p.limit page) :
            Call σ Progress).run.run ch₁ = (.ok out, ch')) := by
  rw [run_advance_succ] at h
  split at h
  · rename_i hfull
    cases h
    exact .inl ⟨hfull, rfl, rfl⟩
  · rename_i hmore
    refine .inr ⟨Int.not_le.1 hmore, ?_⟩
    generalize (p.pager.fetch position).run.run ch = run at h
    obtain ⟨res, ch₁⟩ := run
    cases res with
    | error f => cases h
    | ok page =>
      refine ⟨page, ch₁, rfl, ?_⟩
      dsimp only at h
      split at h
      · rename_i hend
        cases h
        exact .inl ⟨hend, rfl, rfl⟩
      · rename_i hgoes
        exact .inr ⟨hgoes, h⟩

/-- What is made where it is over after some pages, and not earlier, but for the pages before. -/
structure Finishes (limit : Int) (most : Nat) (before pages : List (List Hit)) (out : Progress) :
    Prop where
  made : out.Made limit (before ++ pages)
  isOver : Over limit most (before ++ pages)
  least : ∀ j, before.length ≤ j → j < (before ++ pages).length →
    ¬ Over limit most ((before ++ pages).take j)

theorem finishes_nil {limit : Int} {most : Nat} (hmade : done.Made limit before)
    (hover : Over limit most before) : Finishes limit most before [] done where
  made := by rwa [List.append_nil]
  isOver := by rwa [List.append_nil]
  least := fun j hj hj' => by
    rw [List.append_nil] at hj'
    omega

theorem Finishes.cons {limit : Int} {most : Nat} {page : List Hit} (hnot : ¬ Over limit most before)
    (h : Finishes limit most (before ++ [page]) pages out) :
    Finishes limit most before (page :: pages) out := by
  have hall : before ++ [page] ++ pages = before ++ page :: pages := by simp
  obtain ⟨hmade, hover, hleast⟩ := h
  rw [hall] at hmade hover hleast
  refine ⟨hmade, hover, fun j hj hj' => ?_⟩
  obtain rfl | hj := Nat.eq_or_lt_of_le hj
  · rwa [List.take_left]
  · exact hleast j (by rw [List.length_append, List.length_singleton]; omega) hj'

/-- **Going from page to page**: after the pages before, more pages are fetched as long as it is not
over, and no longer. -/
theorem run_advance :
    ∀ (n : Nat) {before : List (List Hit)} {position : List Json} {done out : Progress}
      {ch ch' : Channel σ}, done.Made p.limit before →
      (∀ page, before.getLast? = some page → lastSort page ≠ []) →
      (advance p n position done : Call σ Progress).run.run ch = (.ok out, ch') →
      ∃ pages, p.pager.Fetches position ch pages ch' ∧
        Finishes p.limit (before.length + n) before pages out
  | 0, _, _, _, _, _, _, hmade, _, h => by
      cases h
      exact ⟨[], .nil .., finishes_nil hmade (.inr (.inr rfl))⟩
  | n + 1, before, _, done, _, _, _, hmade, hgoes, h => by
      obtain ⟨hfull, rfl, rfl⟩ | ⟨hmore, page, ch₁, hfetch, h⟩ := run_advance_cases h
      · have hlength := length_eq_of_take hmade.items
        exact ⟨[], .nil .., finishes_nil hmade (.inl (by omega))⟩
      · have hnot := not_over (n := n) hmade hgoes hmore
        have hmade' := hmade.next hmore page
        obtain ⟨hend, rfl, rfl⟩ | ⟨hsort, h⟩ := h
        · have hover : Over p.limit (before.length + (n + 1)) (before ++ [page]) :=
            .inr (.inl ⟨page, List.getLast?_concat, hend⟩)
          exact ⟨[page], .cons hfetch (.nil ..), (finishes_nil hmade' hover).cons hnot⟩
        · have hgoes' : ∀ page', (before ++ [page]).getLast? = some page' →
              lastSort page' ≠ [] := by
            intro page' hlast
            rw [List.getLast?_concat] at hlast
            exact Option.some.inj hlast ▸ hsort
          have hmost : (before ++ [page]).length + n = before.length + (n + 1) := by
            rw [List.length_append, List.length_singleton]
            omega
          obtain ⟨pages, hfetches, hrest⟩ := run_advance n hmade' hgoes' h
          rw [hmost] at hrest
          exact ⟨page :: pages, .cons hfetch hfetches, hrest.cons hnot⟩

/-! ## A call -/

/-- The listing that a call makes of its progress. -/
def Progress.listing (limit : Int) (done : Progress) : Listing :=
  { items := done.items
    nextCursor := if done.position.isEmpty then "" else Cursor.encode done.position
    pages := done.pages
    limit := limit }

section

variable {c : Client} {w : Wish} {limits : Limits} {guard : Guard} {timeout : Number}

/-- A call lists what it makes of the pages from its cursor on. -/
theorem run_list {after : Option (List Json)} (hcursor : Cursor.decode w.cursor = .ok after)
    (ch : Channel σ) :
    (list c w limits guard timeout : Call σ Listing).run.run ch =
      match (advance (planned c w limits guard timeout) limits.listMaxPages.toNat
        (after.getD []) ⟨[], 0, []⟩ : Call σ Progress).run.run ch with
      | (.ok done, ch₁) => (.ok (done.listing (planned c w limits guard timeout).limit), ch₁)
      | (.error f, ch₁) => (.error f, ch₁) := by
  have hdecode : (Call.ofExcept (.ok after) : Call σ (Option (List Json))).run.run ch =
      (.ok after, ch) := rfl
  unfold list
  rw [hcursor, Call.run_bind, hdecode]
  dsimp only [planned]
  rw [Call.run_bind]
  generalize (advance _ _ _ _ : Call σ Progress).run.run ch = res
  obtain ⟨out, ch₁⟩ := res
  cases out <;> rfl

end

/-! ## An index that does not sort -/

namespace Unsorted

/-- A hit of a package, with its sort values. -/
def hit (aipUuid sipName : String) (sort : List Json) : Json :=
  .obj [("_source", .obj [("AIPUUID", .str aipUuid), ("sipName", .str sipName)]),
    ("sort", .arr sort)]

/-- A good answer with some hits. -/
def page (hits : List Json) : Exchange :=
  { answer := .response 200 "" (.ok (.obj [("hits", .obj [("hits", .arr hits)])]))
    elapsed := .double .zero
    cancels := false }

/-- An index with a package twice, one without a name, and a last hit without sort values. -/
def index : Script :=
  ⟨[page [hit " b " "first" [.str "b"], hit " " "" [.str "b"], hit "b" "second" [.str "b"]],
    page [hit "a" "" [.str "a"], hit "c" "" []]]⟩

def client : Client := .ofEndpoint "http://index" (.double .zero)

def wish : Wish := ⟨"", some 2, ""⟩

/-- A call that lists two packages of the index. -/
def run : Except Fault Listing × Channel Script :=
  (list client wish .standard .free (.double .zero) : Call Script Listing).run.run (.start index)

/-- What the call lists, where its cursor stands, and how many pages it fetched. -/
def outcome : Option (List Item × String × Nat) :=
  run.1.toOption.map fun l => (l.items, l.nextCursor, l.pages)

end Unsorted

end ArchiveCensus.Listing
