import ArchiveCensus.Index.Lookup
import ArchiveCensus.Index.Status
import ArchiveCensus.Proofs.Index.Listed
import ArchiveCensus.Proofs.Index.Scan

/-!
# Proofs/Index/Budget — how many requests a call sends, and with which bodies

A call has a budget: a number of requests that it does not exceed, and a shape that their bodies
have, whatever the index answers.  The budgets of calls one after another add up.

* `Channel.Grows` — a channel grows by the requests of a budget.
* `Call.Spends` — a call spends a budget at most, on every channel.
* `Guard.spends_fetch` — a page costs one request.
* `Listing.spends_advance`, `Scan.grows_advance` — so many pages cost so many requests, all with the
  query that is asked behind some position.
-/

namespace ArchiveCensus

variable {σ α β : Type} {shape : Option Json → Prop} {m n : Nat}

/-! ## Channels -/

namespace Channel

variable {ch ch₁ ch' : Channel σ}

/-- At most so many requests more have been sent, with bodies of a shape. -/
def Grows (shape : Option Json → Prop) (most : Nat) (ch ch' : Channel σ) : Prop :=
  ∃ requests, ch'.sent = ch.sent ++ requests ∧ requests.length ≤ most ∧
    ∀ r ∈ requests, shape r.body

theorem grows_of_sent_eq (h : ch'.sent = ch.sent) (most : Nat) : ch.Grows shape most ch' :=
  ⟨[], by rw [h, List.append_nil], Nat.zero_le most, List.forall_mem_nil _⟩

/-- **Budgets add up.** -/
theorem Grows.trans (h : ch.Grows shape m ch₁) (h' : ch₁.Grows shape n ch') :
    ch.Grows shape (m + n) ch' := by
  obtain ⟨first, hfirst, hm, hshape⟩ := h
  obtain ⟨second, hsecond, hn, hshape'⟩ := h'
  refine ⟨first ++ second, by rw [hsecond, hfirst, List.append_assoc], ?_, ?_⟩
  · rw [List.length_append]
    exact Nat.add_le_add hm hn
  · exact List.forall_mem_append.2 ⟨hshape, hshape'⟩

theorem Grows.mono (h : ch.Grows shape m ch') (hle : m ≤ n) : ch.Grows shape n ch' := by
  obtain ⟨requests, hsent, hm, hshape⟩ := h
  exact ⟨requests, hsent, Nat.le_trans hm hle, hshape⟩

end Channel

open Channel

/-! ## Calls -/

namespace Call

/-- A call sends so many requests at most, with bodies of a shape, whatever the channel is. -/
def Spends (shape : Option Json → Prop) (most : Nat) (x : Call σ α) : Prop :=
  ∀ ch : Channel σ, ch.Grows shape most (x.run.run ch).2

theorem spends_pure (a : α) (most : Nat) : Spends shape most (pure a : Call σ α) :=
  fun _ => grows_of_sent_eq rfl most

theorem spends_throw (f : Fault) (most : Nat) : Spends shape most (throw f : Call σ α) :=
  fun _ => grows_of_sent_eq rfl most

theorem spends_ofDefect (most : Nat) :
    ∀ x : Except Defect α, Spends shape most (ofDefect x : Call σ α)
  | .ok a => spends_pure a most
  | .error d => spends_throw (.defect d) most

theorem spends_now (most : Nat) : Spends shape most (now : Call σ Binary64) :=
  fun _ => grows_of_sent_eq rfl most

/-- **A call after a call** spends what both may spend. -/
theorem Spends.bind {x : Call σ α} {f : α → Call σ β} (hx : Spends shape m x)
    (hf : ∀ a, Spends shape n (f a)) : Spends shape (m + n) (x >>= f) := by
  intro ch
  have hgrows := hx ch
  rw [run_bind]
  generalize x.run.run ch = run at hgrows
  obtain ⟨fault | a, ch₁⟩ := run
  · exact hgrows.mono (Nat.le_add_right m n)
  · exact hgrows.trans (hf a ch₁)

theorem spends_send [Responder σ] {r : Request} (h : shape r.body) :
    Spends shape 1 (send r : Call σ Answer) := by
  intro ch
  rw [send, run_modifyGet_bind]
  have hsend : ch.Grows shape 1 (ch.send r).2 :=
    ⟨[r], sent_send ch r, Nat.le_refl 1, List.forall_mem_singleton.2 h⟩
  exact hsend.trans (spends_ofDefect 0 _ _)

end Call

open Call

namespace Client

theorem spends_read (url : String) (answer : Answer) :
    Spends shape 0 (read url answer : Call σ Json) := by
  intro ch
  obtain ⟨_, _, _, -, -, hread⟩ | ⟨-, _, _, hread, -⟩ := run_read url answer ch
  · exact grows_of_sent_eq (by rw [hread]) 0
  · exact grows_of_sent_eq (by rw [hread]) 0

variable [Responder σ]

/-- A request is one request, and none where there is no index to ask. -/
theorem spends_request (c : Client) (path : String) {body : Option Json} (h : shape body)
    (timeout : Option Number) : Spends shape 1 (c.request path body timeout : Call σ Json) := by
  unfold request
  split
  · exact spends_throw .indexDisabled 1
  · exact (spends_send h).bind fun answer => spends_read _ answer

theorem spends_search (c : Client) (index : String) {query : Json} (h : shape (some query))
    (timeout : Option Number) : Spends shape 1 (c.search index query timeout : Call σ Page) :=
  (c.spends_request _ h timeout).bind fun _ => spends_pure _ 0

end Client

namespace Guard

theorem spends_check (g : Guard) : Spends shape 0 (g.check : Call σ Unit) := by
  intro ch
  obtain ⟨-, hcheck⟩ | ⟨-, _, hcheck⟩ := g.run_check ch
  · exact grows_of_sent_eq (by rw [hcheck]) 0
  · exact grows_of_sent_eq (by rw [hcheck]) 0

/-- **A page costs one request.** -/
theorem spends_fetch [Responder σ] (g : Guard) (c : Client) (index : String) {query : Json}
    (h : shape (some query)) (timeout : Number) :
    Spends shape 1 (g.fetch c index query timeout : Call σ (List Hit)) :=
  g.spends_check.bind fun _ => (spends_now 0).bind fun _ => (spends_ofDefect 0 _).bind fun _ =>
    (c.spends_search index h _).bind fun _ => g.spends_check.bind fun _ => spends_pure _ 0

end Guard

/-! ## From page to page -/

section

variable [Responder σ]

/-- **Going from page to page costs a request for each**, with the query behind some position. -/
theorem Listing.spends_advance {p : Listing.Plan}
    (h : ∀ position, shape (some (p.query position))) :
    ∀ (n : Nat) (position : List Json) (done : Listing.Progress),
      Spends shape n (Listing.advance p n position done : Call σ Listing.Progress)
  | 0, _, done => spends_pure done 0
  | n + 1, position, done => by
    unfold Listing.advance
    split
    · exact spends_pure done (n + 1)
    · rw [Nat.add_comm]
      refine (p.guard.spends_fetch p.client p.index (h position) p.timeout).bind fun hits => ?_
      split
      · exact spends_pure _ n
      · split
        · exact spends_pure _ n
        · exact Listing.spends_advance h n _ _

/-- So does a listing. -/
theorem Listing.spends_list {c : Client} {w : Listing.Wish} {limits : Limits} {guard : Guard}
    {timeout : Number}
    (h : ∀ position, shape (some ((planned c w limits guard timeout).query position))) :
    Spends shape limits.listMaxPages.toNat
      (list c w limits guard timeout : Call σ Listing) := by
  intro ch
  cases hcursor : Cursor.decode w.cursor with
  | error f =>
    unfold list
    rw [hcursor]
    exact grows_of_sent_eq rfl _
  | ok after =>
    have hadvance := spends_advance h limits.listMaxPages.toNat (after.getD []) ⟨[], 0, []⟩ ch
    rw [run_list hcursor]
    generalize (advance _ _ _ _ : Call σ Progress).run.run ch = run at hadvance
    obtain ⟨_ | _, ch₁⟩ := run
    all_goals exact hadvance

/-- The limit of a listing is what it takes for the one that is wanted. -/
theorem Listing.limit_of_list {c : Client} {w : Listing.Wish} {limits : Limits} {guard : Guard}
    {timeout : Number} {ch : Channel σ} {l : Listing}
    (h : ((list c w limits guard timeout : Call σ Listing).run.run ch).1 = .ok l) :
    l.limit = Limits.clamp w.limit limits.listDefault limits.listMax := by
  cases hcursor : Cursor.decode w.cursor with
  | error f =>
    unfold list at h
    rw [hcursor] at h
    cases h
  | ok after =>
    rw [run_list hcursor] at h
    generalize (advance _ _ _ _ : Call σ Progress).run.run ch = run at h
    obtain ⟨f | done, ch₁⟩ := run
    all_goals cases h
    rfl

/-- Going on with a scan costs a request for each page too, for any consumer. -/
theorem Scan.grows_advance {s : Scan} (h : ∀ position, shape (some (s.query position)))
    (c : Consumer β) : ∀ (n : Nat) (position : List Json) (b : β) (ch : Channel σ),
      ch.Grows shape n ((s.advance c n position b).run ch).2
  | 0, _, _, _ => grows_of_sent_eq rfl 0
  | n + 1, position, b, ch => by
    have hgrows := s.guard.spends_fetch s.client s.index (h position) s.timeout ch
    rcases hfetch : (s.guard.fetch s.client s.index (s.query position) s.timeout).run.run ch with
      ⟨fault | hits, ch₁⟩
    all_goals
      rw [hfetch] at hgrows
      have hone : ch.Grows shape (n + 1) ch₁ := hgrows.mono (Nat.le_add_left 1 n)
    -- the scan goes on to another page in one case only
    · rwa [run_advance_stopped hfetch]
    · rcases hlast : hits.getLast? with _ | last
      · obtain rfl := List.getLast?_eq_none_iff.1 hlast
        rwa [run_advance_none hfetch]
      · rcases hfeed : c.feed hits b with ⟨b', _ | ending⟩
        · by_cases hsort : last.sort = []
          · rwa [run_advance_last hfetch hlast hfeed hsort]
          · rw [run_advance_more hfetch hlast hfeed hsort, Nat.add_comm]
            exact hgrows.trans (Scan.grows_advance h c n last.sort b' ch₁)
        · rwa [run_advance_ending hfetch hlast hfeed]

/-- A scan costs a request for each page that it may fetch. -/
theorem Scan.grows_run {s : Scan} (h : ∀ position, shape (some (s.query position)))
    (c : Consumer β) (start : β) (ch : Channel σ) :
    ch.Grows shape s.maxPages.toNat ((s.run c start).run ch).2 := by
  unfold run
  split
  · exact grows_advance h c s.maxPages.toNat [] start ch
  · exact grows_of_sent_eq rfl _

/-- A lookup costs one request. -/
theorem Lookup.spends_find (c : Client) {transferUuid : String} {limit : Int}
    (h : shape (some (body (Text.trim transferUuid) limit))) :
    Spends shape 1 (find c transferUuid limit : Call σ Lookup) := by
  unfold find
  dsimp only
  split
  · exact spends_throw _ 1
  · exact (c.spends_search "" h none).bind fun _ => spends_pure _ 0

/-- The status of the index costs three requests without a body. -/
theorem IndexStatus.spends_ask (c : Client) (h : shape none) :
    Spends shape 3 (ask c : Call σ IndexStatus) :=
  (spends_now 0).bind fun _ => (c.spends_request "/" h none).bind fun _ =>
    (spends_now 0).bind fun _ => (spends_ofDefect 0 _).bind fun _ =>
      (c.spends_request "/_cluster/health" h none).bind fun _ =>
      (c.spends_request "/_nodes/stats/jvm" h none).bind fun _ => spends_pure _ 0

end

end ArchiveCensus
