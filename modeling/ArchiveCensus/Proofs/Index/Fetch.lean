import Mathlib.Data.List.Forall2
import ArchiveCensus.Proofs.Index.Turn

/-!
# Proofs/Index/Fetch — pages of an index that answers as it likes

Nothing is assumed of the index here: its answers may be good or not, honest or not, and may depend
on all that it was asked before.  A fetch sends one request at most, and where it comes to a page,
the request was answered with that page.  So pages that are fetched one after another are those that
the requests were answered with, and the requests follow from the pages.

* `Pager.fetched` — everything that a fetch can come to.
* `Pager.Fetches` — pages are fetched one after another, each from where the one before leaves off.
* `Pager.Fetches.exists_served` — what was sent for them, and that it was answered with them.
-/

namespace ArchiveCensus

variable {σ : Type}

/-! ## Requests -/

/-- The sort values behind which a request asks for hits, as they stand in it; none where it asks
from the start. -/
def Request.searchAfter? (r : Request) : Option Json :=
  r.body.bind fun body => body.entries.lookup "search_after"

/-- A position as it stands in a request; the start does not. -/
def carried (position : List Json) : Option Json :=
  if position.isEmpty then none else some (.arr position)

/-- What a query is made of that ends with its position. -/
theorem lookup_search_after {entries : List (String × Json)}
    (h : ∀ e ∈ entries, e.1 ≠ "search_after") (position : List Json) :
    (entries ++ if position.isEmpty then [] else [("search_after", Json.arr position)]).lookup
      "search_after" = carried position := by
  induction entries with
  | nil =>
    rw [List.nil_append, carried]
    split <;> rfl
  | cons e entries ih =>
    rw [List.forall_mem_cons] at h
    rw [List.cons_append, List.lookup_cons, beq_false_of_ne h.1.symm]
    exact ih h.2

/-! ## One page -/

namespace Pager

variable [Responder σ]

/-- What a fetch can come to, whatever the index makes of its request. -/
inductive Fetched (p : Pager) (position : List Json) (ch : Channel σ) :
    Except Fault (List Hit) → Channel σ → Prop where
  /-- The request is answered with a page. -/
  | page {r : Request} {hits : List Hit} {ch' : Channel σ} (asks : p.Asks position r)
      (gives : (Responder.exchange ch.responder r).1.Gives hits)
      (responder : ch'.responder = (Responder.exchange ch.responder r).2)
      (sent : ch'.sent = ch.sent ++ [r]) (warnings : ch'.warnings = ch.warnings) :
      Fetched p position ch (.ok hits) ch'
  /-- Nothing is sent. -/
  | unsent (f : Fault) : Fetched p position ch (.error f) ch
  /-- A request is sent in vain. -/
  | vain {r : Request} {f : Fault} {ch' : Channel σ} {ws : List Warning}
      (asks : p.Asks position r) (sent : ch'.sent = ch.sent ++ [r])
      (warnings : ch'.warnings = ch.warnings ++ ws) (quiet : ∀ w ∈ ws, w.isCeiling = false) :
      Fetched p position ch (.error f) ch'

/-- **Everything that a fetch can come to**, by what is seen of it. -/
theorem fetched (p : Pager) (position : List Json) (ch : Channel σ) :
    p.Fetched position ch ((p.fetch position).run.run ch).1 ((p.fetch position).run.run ch).2 := by
  have hturn := p.turn position ch
  generalize (p.fetch position).run.run ch = out at hturn
  obtain ⟨out, ch'⟩ := out
  dsimp only at hturn ⊢
  cases hturn with
  | unsent _ => exact .unsent _
  | page sends gives _ =>
    exact .page sends.asks gives (Moment.responder_after _) (Moment.sent_after _)
      (Moment.warnings_after _)
  | late sends _ _ =>
    exact .vain sends.asks (Moment.sent_after _)
      ((Moment.warnings_after _).trans (List.append_nil _).symm) fun _ hnone => nomatch hnone
  | failed sends _ quiet =>
    exact .vain sends.asks (Moment.sent_after _) (by rw [Moment.warnings_after]) quiet
  | lost sends _ =>
    exact .vain sends.asks (Moment.sent_after _)
      ((Moment.warnings_after _).trans (List.append_nil _).symm) fun _ hnone => nomatch hnone

end Pager

/-! ## Pages one after another -/

/-- Where a page leaves off: the sort values of its last hit; none where it has no hits, or its last
one no sort values. -/
def lastSort (page : List Hit) : List Json := (page.getLast?.map Hit.sort).getD []

/-- Where pages leave off; at the position before them where there are none. -/
def leftOff (position : List Json) (pages : List (List Hit)) : List Json :=
  (pages.map lastSort).getLastD position

/-- The positions of the pages from a position on: each is behind where the one before leaves
off. -/
def positions (position : List Json) (pages : List (List Hit)) : List (List Json) :=
  (position :: pages.map lastSort).take pages.length

@[simp] theorem lastSort_nil : lastSort [] = [] := rfl

theorem lastSort_of_getLast? {page : List Hit} {last : Hit} (h : page.getLast? = some last) :
    lastSort page = last.sort := by
  rw [lastSort, h]
  rfl

@[simp] theorem leftOff_cons (position : List Json) (page : List Hit) (pages : List (List Hit)) :
    leftOff position (page :: pages) = leftOff (lastSort page) pages := by
  rw [leftOff, List.map_cons, List.getLastD_cons, leftOff]

@[simp] theorem positions_cons (position : List Json) (page : List Hit)
    (pages : List (List Hit)) :
    positions position (page :: pages) = position :: positions (lastSort page) pages := rfl

/-- The next page is behind where the pages leave off. -/
theorem positions_append_leftOff (position : List Json) (pages : List (List Hit)) :
    positions position pages ++ [leftOff position pages] = position :: pages.map lastSort := by
  induction pages generalizing position with
  | nil => rfl
  | cons page pages ih => rw [positions_cons, leftOff_cons, List.cons_append, ih, List.map_cons]

theorem length_positions (position : List Json) (pages : List (List Hit)) :
    (positions position pages).length = pages.length := by
  rw [positions, List.length_take, List.length_cons, List.length_map]
  omega

/-- The requests that an index is sent, and the pages that it answers them with. -/
inductive Serves [Responder σ] : σ → List Request → List (List Hit) → σ → Prop where
  | nil (s : σ) : Serves s [] [] s
  | cons {s s' : σ} {r : Request} {page : List Hit} {requests : List Request}
      {pages : List (List Hit)} (gives : (Responder.exchange s r).1.Gives page)
      (rest : Serves (Responder.exchange s r).2 requests pages s') :
      Serves s (r :: requests) (page :: pages) s'

namespace Pager

variable [Responder σ]

/-- Pages are fetched one after another, each from where the one before leaves off. -/
inductive Fetches (p : Pager) :
    List Json → Channel σ → List (List Hit) → Channel σ → Prop where
  | nil (position : List Json) (ch : Channel σ) : Fetches p position ch [] ch
  | cons {position : List Json} {ch ch₁ ch' : Channel σ} {page : List Hit}
      {pages : List (List Hit)} (fetch : (p.fetch position).run.run ch = (.ok page, ch₁))
      (rest : Fetches p (lastSort page) ch₁ pages ch') : Fetches p position ch (page :: pages) ch'

variable {p : Pager} {position : List Json} {ch ch' : Channel σ} {pages : List (List Hit)}

/-- **What was sent for pages, and that it was answered with them.** -/
theorem Fetches.exists_served (h : p.Fetches position ch pages ch') :
    ∃ requests, ch'.sent = ch.sent ++ requests ∧ ch'.warnings = ch.warnings ∧
      Serves ch.responder requests pages ch'.responder ∧
      List.Forall₂ p.Asks (positions position pages) requests := by
  induction h with
  | nil position ch => exact ⟨[], (List.append_nil _).symm, rfl, .nil _, .nil⟩
  | @cons position ch ch₁ ch' page pages hfetch _ ih =>
    obtain ⟨requests, hsent, hwarnings, hserves, hasks⟩ := ih
    have hone := p.fetched position ch
    rw [hfetch] at hone
    cases hone with
    | @page r _ _ hask hgives hresponder hsent' hwarnings' =>
      refine ⟨r :: requests, ?_, hwarnings.trans hwarnings', ?_, ?_⟩
      · rw [hsent, hsent', List.append_assoc]
        rfl
      · rw [hresponder] at hserves
        exact .cons hgives hserves
      · exact .cons hask hasks

/-- A fetch that fails may have sent its request, and does not warn of a ceiling. -/
theorem exists_sent_of_error {f : Fault}
    (h : (p.fetch position).run.run ch = (.error f, ch')) :
    ∃ requests ws, ch'.sent = ch.sent ++ requests ∧ ch'.warnings = ch.warnings ++ ws ∧
      (∀ w ∈ ws, Warning.isCeiling w = false) ∧
      (requests = [] ∨ ∃ r, requests = [r] ∧ p.Asks position r) := by
  have hone := p.fetched position ch
  rw [h] at hone
  cases hone with
  | unsent => exact ⟨[], [], by simp, by simp, by simp, .inl rfl⟩
  | vain hask hsent hwarnings hquiet =>
    exact ⟨_, _, hsent, hwarnings, hquiet, .inr ⟨_, rfl, hask⟩⟩

/-- The requests for pages carry their positions. -/
theorem searchAfter?_of_asks
    (hquery : ∀ position, (p.query position).entries.lookup "search_after" = carried position)
    {positions : List (List Json)} {requests : List Request}
    (h : List.Forall₂ p.Asks positions requests) :
    requests.map Request.searchAfter? = positions.map carried := by
  induction h with
  | nil => rfl
  | cons hask _ ih =>
    obtain ⟨t, rfl⟩ := hask
    rw [List.map_cons, List.map_cons, ih, Request.searchAfter?, ← hquery]
    rfl

end Pager

end ArchiveCensus
