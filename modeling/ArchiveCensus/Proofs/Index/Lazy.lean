import ArchiveCensus.Index.Script
import ArchiveCensus.Proofs.Index.Fetch
import ArchiveCensus.Proofs.Index.Scan

/-!
# Proofs/Index/Lazy — what a scan asks for, and when it ends

Whatever the index answers, a scan hands over the hits of the pages it was answered with, in order,
and asks for no page before a hit of it is wanted.  So it ends with the page that brings the last
hit wanted, with a page that leaves off nowhere, with the last page it may fetch, or with the first
that cannot be fetched; and each of these ends leaves its own trace.

* `Scan.Tail`, `Scan.run_advance` — how a scan ends, for any consumer and from any position on.
* `Consumer.feed_keep_eq` — the consumer that keeps hits up to so many of them.
* `Scan.Yields`, `Scan.exists_yields` — the hits, the requests and the warnings of a scan.
-/

namespace ArchiveCensus

variable {σ β : Type}

/-! ## Hits that are kept -/

/-- More hits than these are wanted. -/
def Wanted (most : Option Nat) (hits : List Hit) : Prop := ∀ n, most = some n → hits.length < n

/-- What is kept of hits: all of them, or the first so many. -/
def kept (most : Option Nat) (hits : List Hit) : List Hit :=
  match most with
  | none => hits
  | some n => hits.take n

namespace Consumer

theorem wants_keep_iff {most : Option Nat} {hits : List Hit} :
    (keep most).wants hits = true ↔ Wanted most hits := by
  cases most <;> simp [keep, Wanted]

/-- **The consumer that keeps hits keeps the first of them**, and ends when it has enough. -/
theorem feed_keep_eq {most : Option Nat} :
    ∀ (hits : List Hit) {before : List Hit}, kept most before = before →
      (keep most).feed hits before = (kept most (before ++ hits),
        if (keep most).wants (before ++ hits) then none else some .taken)
  | [], before, hbefore => by
    rw [feed, List.append_nil, hbefore]
  | h :: rest, before, hbefore => by
    have hall : before ++ h :: rest = (before ++ [h]) ++ rest := by simp
    by_cases hwants : (keep most).wants before = true
    · have htake : (keep most).take before h = .ok (before ++ [h]) := rfl
      have hmore : kept most (before ++ [h]) = before ++ [h] := by
        cases most with
        | none => rfl
        | some n =>
          have hless : before.length < n := wants_keep_iff.1 hwants n rfl
          have hlength : (before ++ [h]).length = before.length + 1 := by simp
          exact List.take_of_length_le (by omega)
      rw [feed, if_pos hwants, htake, hall]
      exact feed_keep_eq rest hmore
    · rw [feed_of_not_wants (by simpa using hwants)]
      cases most with
      | none => exact absurd rfl hwants
      | some n =>
        have hfull : n ≤ before.length := by simpa [keep] using hwants
        have hnone : (keep (some n)).wants (before ++ h :: rest) = false := by
          simp only [keep, Option.all_some, decide_eq_false_iff_not, List.length_append]
          omega
        have hfirst : kept (some n) (before ++ h :: rest) = before := by
          have hless : before.length ≤ n := by
            rw [← hbefore]
            exact List.length_take_le ..
          exact List.take_left' (Nat.le_antisymm hless hfull)
        rw [hnone, hfirst]
        rfl

end Consumer

namespace Scan

variable [Responder σ]

/-- What the query of a scan goes on with. -/
def pager (s : Scan) : Pager :=
  { client := s.client, index := s.index, query := s.query, guard := s.guard, timeout := s.timeout }

theorem lookup_search_after (s : Scan) (position : List Json) :
    (s.pager.query position).entries.lookup "search_after" = carried position :=
  ArchiveCensus.lookup_search_after (by simp) position

/-! ## Ends -/

/-- How a scan ends that may fetch `n` pages from a position on, after the pages it has fetched. -/
inductive Tail (s : Scan) (c : Consumer β) (n : Nat) (position : List Json) (b : β)
    (pages : List (List Hit)) (ch : Channel σ) : β × Ending → Channel σ → Prop where
  /-- The consumer comes to an end with the last page. -/
  | handed {b' : β} {ending : Ending} (feed : c.feed pages.flatten b = (b', some ending))
      (least : ∀ j < pages.length, ∃ b', c.feed (pages.take j).flatten b = (b', none)) :
      Tail s c n position b pages ch (b', ending) ch
  /-- The last page leaves off nowhere. -/
  | ended {b' : β} {page : List Hit} (feed : c.feed pages.flatten b = (b', none))
      (last : pages.getLast? = some page) (ends : lastSort page = []) :
      Tail s c n position b pages ch (b', .exhausted) ch
  /-- No more pages may be fetched. -/
  | ceiling {b' : β} (feed : c.feed pages.flatten b = (b', none)) (full : pages.length = n)
      (goes : ∀ page ∈ pages, lastSort page ≠ []) :
      Tail s c n position b pages ch (b', .exhausted)
        (ch.warn (.pageCeiling s.aipUuid s.maxPages))
  /-- The next page cannot be fetched. -/
  | failed {b' : β} {f : Fault} {ch' : Channel σ} (feed : c.feed pages.flatten b = (b', none))
      (room : pages.length < n) (goes : ∀ page ∈ pages, lastSort page ≠ [])
      (fetch : (s.pager.fetch (leftOff position pages)).run.run ch = (.error f, ch')) :
      Tail s c n position b pages ch (b', .failed f) ch'

/-- A page before the pages after which a scan ends. -/
theorem Tail.cons {s : Scan} {c : Consumer β} {n : Nat} {position : List Json} {b b₁ : β}
    {page : List Hit} {pages : List (List Hit)} {ch ch' : Channel σ} {out : β × Ending}
    (hfeed : c.feed page b = (b₁, none)) (hgoes : lastSort page ≠ []) (hwants : c.wants b = true)
    (h : s.Tail c n (lastSort page) b₁ pages ch out ch') :
    s.Tail c (n + 1) position b (page :: pages) ch out ch' := by
  have hall : ∀ later : List (List Hit),
      c.feed (page :: later).flatten b = c.feed later.flatten b₁ := fun later => by
    rw [List.flatten_cons, Consumer.feed_append, hfeed]
  have hgoes' : (∀ page ∈ pages, lastSort page ≠ []) →
      ∀ page' ∈ page :: pages, lastSort page' ≠ [] := fun hrest =>
    List.forall_mem_cons.2 ⟨hgoes, hrest⟩
  cases h with
  | handed feed least =>
    refine .handed (by rw [hall, feed]) fun j hj => ?_
    cases j with
    | zero => exact ⟨b, by rw [List.take_zero, List.flatten_nil, Consumer.feed, if_pos hwants]⟩
    | succ j =>
      obtain ⟨b', hfed⟩ := least j (Nat.lt_of_succ_lt_succ hj)
      exact ⟨b', by rw [List.take_succ_cons, hall, hfed]⟩
  | @ended _ page' feed last ends =>
    have hlast : (page :: pages).getLast? = some page' := by
      rw [List.getLast?_cons, last]
      rfl
    exact .ended (by rw [hall, feed]) hlast ends
  | ceiling feed full goes =>
    exact .ceiling (by rw [hall, feed]) (congrArg Nat.succ full) (hgoes' goes)
  | failed feed room goes fetch =>
    exact .failed (by rw [hall, feed]) (Nat.succ_lt_succ room) (hgoes' goes)
      (by rw [leftOff_cons]; exact fetch)

/-- **How a scan goes on from a position**: it fetches pages one after another, each of which but
the last leaves off somewhere, and ends in one of four ways. -/
theorem run_advance (s : Scan) (c : Consumer β) :
    ∀ (n : Nat) (position : List Json) {b : β} (ch : Channel σ), c.wants b = true →
      ∃ pages ch₁, s.pager.Fetches position ch pages ch₁ ∧ pages.length ≤ n ∧
        (∀ page ∈ pages.dropLast, lastSort page ≠ []) ∧
        s.Tail c n position b pages ch₁ ((s.advance c n position b).run ch).1
          ((s.advance c n position b).run ch).2
  | 0, position, b, ch, hwants => by
    have hfeed : c.feed ([] : List (List Hit)).flatten b = (b, none) := by
      rw [List.flatten_nil, Consumer.feed, if_pos hwants]
    exact ⟨[], ch, .nil .., Nat.le_refl 0, by simp, .ceiling hfeed rfl (by simp)⟩
  | n + 1, position, b, ch, hwants => by
    have hnone : c.feed ([] : List (List Hit)).flatten b = (b, none) := by
      rw [List.flatten_nil, Consumer.feed, if_pos hwants]
    cases hfetch : (s.pager.fetch position).run.run ch with
    | mk out ch₁ =>
    cases out with
    | error f =>
      rw [run_advance_stopped hfetch]
      exact ⟨[], ch, .nil .., Nat.zero_le _, by simp,
        .failed hnone (Nat.succ_pos n) (by simp) hfetch⟩
    | ok page =>
      cases hlast : page.getLast? with
      | none =>
        obtain rfl := List.getLast?_eq_none_iff.1 hlast
        rw [run_advance_none hfetch]
        exact ⟨[[]], ch₁, .cons hfetch (.nil ..), Nat.succ_le_succ (Nat.zero_le n), by simp,
          .ended hnone rfl rfl⟩
      | some last =>
        have hsort := lastSort_of_getLast? hlast
        have hone : c.feed [page].flatten b = c.feed page b := by rw [List.flatten_singleton]
        obtain ⟨b₁, ending, hfeed⟩ : ∃ b₁ ending, c.feed page b = (b₁, ending) := ⟨_, _, rfl⟩
        cases ending with
        | some ending =>
          rw [run_advance_ending hfetch hlast hfeed]
          refine ⟨[page], ch₁, .cons hfetch (.nil ..), Nat.succ_le_succ (Nat.zero_le n), by simp,
            .handed (hone.trans hfeed) fun j hj => ?_⟩
          obtain rfl : j = 0 := Nat.lt_one_iff.1 hj
          exact ⟨b, hnone⟩
        | none =>
          by_cases hend : last.sort = []
          · rw [run_advance_last hfetch hlast hfeed hend]
            exact ⟨[page], ch₁, .cons hfetch (.nil ..), Nat.succ_le_succ (Nat.zero_le n), by simp,
              .ended (hone.trans hfeed) rfl (hsort.trans hend)⟩
          · rw [run_advance_more hfetch hlast hfeed hend, ← hsort]
            obtain ⟨pages, ch₂, hfetches, hlength, hgoes, htail⟩ :=
              run_advance s c n (lastSort page) ch₁ (Consumer.wants_of_feed hfeed)
            rw [← hsort] at hend
            refine ⟨page :: pages, ch₂, .cons hfetch hfetches, Nat.succ_le_succ hlength, ?_,
              htail.cons hfeed hend hwants⟩
            cases pages with
            | nil => simp
            | cons next rest =>
              rw [List.dropLast_cons_cons]
              exact List.forall_mem_cons.2 ⟨hend, hgoes⟩

/-! ## Hits up to so many -/

/-- How a scan ends that hands over up to so many hits, after the pages it has fetched. -/
inductive Ends (s : Scan) (most : Option Nat) (pages : List (List Hit)) (ch : Channel σ) :
    Ending → Channel σ → Prop where
  /-- The last page brings the last hit wanted, and no fewer pages do. -/
  | taken {n : Nat} (bound : most = some n) (enough : n ≤ pages.flatten.length)
      (least : ∀ j < pages.length, (pages.take j).flatten.length < n) :
      Ends s most pages ch .taken ch
  /-- The last page leaves off nowhere. -/
  | ended {page : List Hit} (wanted : Wanted most pages.flatten)
      (last : pages.getLast? = some page) (ends : lastSort page = []) :
      Ends s most pages ch .exhausted ch
  /-- No more pages may be fetched, and this is warned of. -/
  | ceiling (wanted : Wanted most pages.flatten) (full : pages.length = s.maxPages.toNat)
      (goes : ∀ page ∈ pages, lastSort page ≠ []) :
      Ends s most pages ch .exhausted (ch.warn (.pageCeiling s.aipUuid s.maxPages))
  /-- The next page cannot be fetched. -/
  | failed {f : Fault} {ch' : Channel σ} (wanted : Wanted most pages.flatten)
      (room : pages.length < s.maxPages.toNat) (goes : ∀ page ∈ pages, lastSort page ≠ [])
      (fetch : (s.pager.fetch (leftOff [] pages)).run.run ch = (.error f, ch')) :
      Ends s most pages ch (.failed f) ch'

variable {s : Scan} {most : Option Nat} {pages : List (List Hit)} {ch ch₁ ch' : Channel σ}

theorem kept_nil (most : Option Nat) : kept most [] = [] := by
  cases most with
  | none => rfl
  | some n => exact List.take_nil

theorem not_wanted_iff {hits : List Hit} :
    ¬ Wanted most hits ↔ ∃ n, most = some n ∧ n ≤ hits.length := by
  simp only [Wanted, not_forall, Nat.not_lt, exists_prop]

/-- Handing over hits to be kept, from the start. -/
theorem feed_keep_flatten (most : Option Nat) (pages : List (List Hit)) :
    (Consumer.keep most).feed pages.flatten [] = (kept most pages.flatten,
      if (Consumer.keep most).wants pages.flatten then none else some .taken) :=
  Consumer.feed_keep_eq pages.flatten (kept_nil most)

theorem wanted_of_feed {hits : List Hit}
    (h : (Consumer.keep most).feed pages.flatten [] = (hits, none)) :
    hits = kept most pages.flatten ∧ Wanted most pages.flatten := by
  rw [feed_keep_flatten, Prod.mk.injEq] at h
  obtain ⟨hhits, hending⟩ := h
  refine ⟨hhits.symm, Consumer.wants_keep_iff.1 ?_⟩
  by_contra hnot
  rw [if_neg hnot] at hending
  cases hending

/-- The ends of a scan that keeps hits up to so many. -/
theorem Tail.ends {out : List Hit × Ending}
    (h : s.Tail (.keep most) s.maxPages.toNat [] [] pages ch out ch') :
    out.1 = kept most pages.flatten ∧ s.Ends most pages ch out.2 ch' := by
  cases h with
  | @handed hits ending feed least =>
    rw [feed_keep_flatten, Prod.mk.injEq] at feed
    obtain ⟨hhits, hending⟩ := feed
    split at hending
    · cases hending
    · rename_i hnot
      cases hending
      obtain ⟨n, rfl, henough⟩ := not_wanted_iff.1 (Consumer.wants_keep_iff.not.1 hnot)
      refine ⟨hhits.symm, .taken rfl henough fun j hj => ?_⟩
      obtain ⟨b', hfeed⟩ := least j hj
      exact (wanted_of_feed hfeed).2 n rfl
  | ended feed last ends =>
    obtain ⟨hhits, hwanted⟩ := wanted_of_feed feed
    exact ⟨hhits, .ended hwanted last ends⟩
  | ceiling feed full goes =>
    obtain ⟨hhits, hwanted⟩ := wanted_of_feed feed
    exact ⟨hhits, .ceiling hwanted full goes⟩
  | failed feed room goes fetch =>
    obtain ⟨hhits, hwanted⟩ := wanted_of_feed feed
    exact ⟨hhits, .failed hwanted room goes fetch⟩

/-- **How a scan goes that hands over up to so many hits**: it keeps the first hits of the pages it
fetches, and ends in one of four ways. -/
theorem run_keep (s : Scan) (most : Option Nat) (ch : Channel σ) :
    ∃ pages ch₁, s.pager.Fetches [] ch pages ch₁ ∧ pages.length ≤ s.maxPages.toNat ∧
      (∀ page ∈ pages.dropLast, lastSort page ≠ []) ∧
      ((s.run (.keep most) []).run ch).1.1 = kept most pages.flatten ∧
      s.Ends most pages ch₁ ((s.run (.keep most) []).run ch).1.2
        ((s.run (.keep most) []).run ch).2 := by
  unfold run
  split
  · rename_i hwants
    obtain ⟨pages, ch₁, hfetches, hlength, hgoes, htail⟩ :=
      run_advance s (.keep most) s.maxPages.toNat [] ch hwants
    obtain ⟨hhits, hends⟩ := htail.ends
    exact ⟨pages, ch₁, hfetches, hlength, hgoes, hhits, hends⟩
  · rename_i hnot
    obtain ⟨n, rfl, henough⟩ := not_wanted_iff.1 (Consumer.wants_keep_iff.not.1 hnot)
    refine ⟨[], ch, .nil .., Nat.zero_le _, by simp, (kept_nil _).symm, ?_⟩
    exact .taken rfl henough (by simp)

/-! ## What is seen of a scan -/

/-- A scan is at the last page it may fetch, and more hits are wanted. -/
def AtCeiling (s : Scan) (most : Option Nat) (pages : List (List Hit)) : Prop :=
  Wanted most pages.flatten ∧ pages.length = s.maxPages.toNat ∧ ∀ page ∈ pages, lastSort page ≠ []

/-- What is seen of a scan: the hits it hands over and how it ends, the pages it fetches, the
requests it sends and the warnings it gives. -/
structure Seen where
  hits : List Hit
  ending : Ending
  pages : List (List Hit)
  requests : List Request
  warnings : List Warning

/-- What is seen of a scan that hands over up to so many hits. -/
structure Yields (s : Scan) (most : Option Nat) (ch : Channel σ) (t : Seen) (ch' : Channel σ) :
    Prop where
  sent : ch'.sent = ch.sent ++ t.requests
  warned : ch'.warnings = ch.warnings ++ t.warnings
  /-- The hits are those of the pages, in order, as far as they are wanted. -/
  hits : t.hits = kept most t.pages.flatten
  length_le : t.pages.length ≤ s.maxPages.toNat
  /-- No page follows one that leaves off nowhere. -/
  goes : ∀ page ∈ t.pages.dropLast, lastSort page ≠ []
  ends : ∃ ch₁, s.pager.Fetches [] ch t.pages ch₁ ∧ s.Ends most t.pages ch₁ t.ending ch'
  /-- The requests were answered with the pages, but for a last one that failed. -/
  served : ∃ responder, Serves ch.responder (t.requests.take t.pages.length) t.pages responder
  requests : t.requests.length = t.pages.length ∨
    t.requests.length = t.pages.length + 1 ∧ ∃ f, t.ending = .failed f
  /-- The first request carries no position, and each of the others where the page before leaves
  off. -/
  searchAfter : t.requests.map Request.searchAfter? =
    (([] :: t.pages.map lastSort).take t.requests.length).map carried
  /-- The ceiling is warned of once at the ceiling, and nowhere else. -/
  ceiling : s.AtCeiling most t.pages → t.warnings = [.pageCeiling s.aipUuid s.maxPages]
  quiet : ¬ s.AtCeiling most t.pages → ∀ w ∈ t.warnings, w.isCeiling = false

/-- What is seen of a scan that sends these requests and gives these warnings after its pages. -/
theorem yields_of_fetches {ending : Ending} {extra : List Request} {ws : List Warning}
    (hfetches : s.pager.Fetches [] ch pages ch₁) (hlength : pages.length ≤ s.maxPages.toNat)
    (hgoes : ∀ page ∈ pages.dropLast, lastSort page ≠ [])
    (hends : s.Ends most pages ch₁ ending ch') (hsent : ch'.sent = ch₁.sent ++ extra)
    (hwarned : ch'.warnings = ch₁.warnings ++ ws)
    (hextra : extra = [] ∨
      ∃ r f, extra = [r] ∧ s.pager.Asks (leftOff [] pages) r ∧ ending = .failed f)
    (hceiling : s.AtCeiling most pages → ws = [.pageCeiling s.aipUuid s.maxPages])
    (hquiet : ¬ s.AtCeiling most pages → ∀ w ∈ ws, Warning.isCeiling w = false) :
    ∃ requests, s.Yields most ch ⟨kept most pages.flatten, ending, pages, requests, ws⟩ ch' := by
  obtain ⟨requests, hsent₁, hwarnings₁, hserves, hasks⟩ := hfetches.exists_served
  have hcount : requests.length = pages.length := by
    rw [← hasks.length_eq, length_positions]
  refine ⟨requests ++ extra, ?_, ?_, rfl, hlength, hgoes, ⟨ch₁, hfetches, hends⟩, ?_, ?_, ?_,
    hceiling, hquiet⟩
  · rw [hsent, hsent₁, List.append_assoc]
  · rw [hwarned, hwarnings₁]
  · exact ⟨_, by rw [List.take_left' hcount]; exact hserves⟩
  · obtain rfl | ⟨r, f, rfl, -, rfl⟩ := hextra
    · exact .inl (by rw [List.append_nil]; exact hcount)
    · exact .inr ⟨by simp [hcount], f, rfl⟩
  · obtain rfl | ⟨r, f, rfl, hask, -⟩ := hextra
    · rw [List.append_nil, hcount, Pager.searchAfter?_of_asks s.lookup_search_after hasks]
      rfl
    · have hall := List.rel_append hasks (List.Forall₂.cons hask .nil)
      dsimp only at hall
      rw [positions_append_leftOff] at hall
      rw [Pager.searchAfter?_of_asks s.lookup_search_after hall, List.take_of_length_le]
      simp [hcount]

/-- What is seen of a scan that sends and warns of nothing after its pages. -/
theorem yields_of_still {ending : Ending} (hfetches : s.pager.Fetches [] ch pages ch₁)
    (hlength : pages.length ≤ s.maxPages.toNat)
    (hgoes : ∀ page ∈ pages.dropLast, lastSort page ≠ [])
    (hends : s.Ends most pages ch₁ ending ch₁) (hnot : ¬ s.AtCeiling most pages) :
    ∃ requests, s.Yields most ch ⟨kept most pages.flatten, ending, pages, requests, []⟩ ch₁ :=
  yields_of_fetches hfetches hlength hgoes hends (List.append_nil _).symm (List.append_nil _).symm
    (.inl rfl) (fun hat => absurd hat hnot) fun _ _ hw => (nomatch hw)

/-- **Every scan that keeps hits up to so many yields these**, whatever the index answers. -/
theorem yields_run (s : Scan) (most : Option Nat) (ch : Channel σ) :
    ∃ (t : Seen) (ch' : Channel σ),
      (s.run (.keep most) []).run ch = ((t.hits, t.ending), ch') ∧ s.Yields most ch t ch' := by
  obtain ⟨pages, ch₁, hfetches, hlength, hgoes, hhits, hends⟩ := s.run_keep most ch
  generalize (s.run (.keep most) []).run ch = out at *
  obtain ⟨⟨hits, ending⟩, ch'⟩ := out
  dsimp only at hhits hends
  subst hhits
  have hcases := hends
  cases hcases with
  | @taken n bound enough _ =>
    have hnot : ¬ s.AtCeiling most pages := fun hat => Nat.not_lt.2 enough (hat.1 n bound)
    obtain ⟨requests, h⟩ := yields_of_still hfetches hlength hgoes hends hnot
    exact ⟨_, _, rfl, h⟩
  | ended _ last ends =>
    have hnot : ¬ s.AtCeiling most pages := fun hat => hat.2.2 _ (List.mem_of_getLast? last) ends
    obtain ⟨requests, h⟩ := yields_of_still hfetches hlength hgoes hends hnot
    exact ⟨_, _, rfl, h⟩
  | ceiling wanted full goes =>
    have hat : s.AtCeiling most pages := ⟨wanted, full, goes⟩
    obtain ⟨requests, h⟩ := yields_of_fetches hfetches hlength hgoes hends
      (List.append_nil _).symm rfl (.inl rfl) (fun _ => rfl) fun hnot => absurd hat hnot
    exact ⟨_, _, rfl, h⟩
  | @failed f _ _ room _ fetch =>
    have hnot : ¬ s.AtCeiling most pages := fun hat => Nat.ne_of_lt room hat.2.1
    obtain ⟨extra, ws, hsent, hwarned, hquiet, hextra⟩ := Pager.exists_sent_of_error fetch
    have hlast : extra = [] ∨ ∃ r f', extra = [r] ∧ s.pager.Asks (leftOff [] pages) r ∧
        Ending.failed f = .failed f' := by
      obtain rfl | ⟨r, rfl, hask⟩ := hextra
      · exact .inl rfl
      · exact .inr ⟨r, f, rfl, hask, rfl⟩
    obtain ⟨requests, h⟩ := yields_of_fetches hfetches hlength hgoes hends hsent hwarned hlast
      (fun hat => absurd hat hnot) fun _ => hquiet
    exact ⟨_, _, rfl, h⟩

/-- **What a scan of a package asks for, and when it ends**: a package with a name can be scanned,
and whatever the index answers, the scan hands over the hits of the pages that it fetches, fetches
none before a hit of it is wanted, and ends in one of four ways, each with its own trace. -/
theorem exists_yields {c : Client} {w : Wish} {limits : Limits} {guard : Guard} {timeout : Number}
    (hname : Text.trim w.aipUuid ≠ "") :
    ∃ s, plan c w limits guard timeout = .ok s ∧ s.aipUuid = Text.trim w.aipUuid ∧
      s.pageSize = Limits.clamp w.pageSize limits.scanDefaultPage limits.scanMaxPage ∧
      s.maxPages = limits.scanMaxPages ∧
      ∀ (most : Option Nat) (ch : Channel σ), ∃ (t : Seen) (ch' : Channel σ),
        (s.run (.keep most) []).run ch = ((t.hits, t.ending), ch') ∧ s.Yields most ch t ch' := by
  unfold plan
  dsimp only
  rw [if_neg (by simpa using hname)]
  exact ⟨_, rfl, rfl, rfl, rfl, yields_run _⟩

/-! ## An index that refuses -/

namespace Refusing

/-- A good answer with some hits, each with a sort value. -/
def page (ids : List String) : Exchange :=
  { answer := .response 200 "" (.ok (.obj [("hits", .obj [("hits", .arr
      (ids.map fun id => .obj [("_id", .str id), ("sort", .arr [.str id])]))])]))
    elapsed := .double .zero
    cancels := false }

/-- An index that answers with two pages, and then refuses. -/
def index : Script :=
  ⟨[page ["a", "b"], page ["c", "d"],
    { answer := .response 503 "busy" (.error ""), elapsed := .double .zero, cancels := false }]⟩

def client : Client := .ofEndpoint "http://index" (.double .zero)

def wish : Wish := ⟨"aipfiles", " aip ", none⟩

theorem trim_aipUuid : Text.trim wish.aipUuid ≠ "" := by decide

/-- The scan of the package. -/
def scan : Scan :=
  { client := client, index := "aipfiles", aipUuid := Text.trim wish.aipUuid, pageSize := 500
    maxPages := 1000, guard := .free, timeout := .double .zero }

theorem plan_eq : plan client wish .standard .free (.double .zero) = .ok scan := by
  unfold plan
  dsimp only
  rw [if_neg (by simpa using trim_aipUuid)]
  rfl

/-- How many requests are sent for up to so many hits, and what is handed over. -/
def outcome (most : Option Nat) : Nat × List String :=
  let out := (scan.run (.keep most) []).run (.start index)
  (out.2.sent.length, out.1.1.map Hit.id)

end Refusing

/-- Two hits take one request, and a third one takes another; all hits take the request that is
refused. -/
theorem exists_yields_refusing :
    plan Refusing.client Refusing.wish .standard .free (.double .zero) = .ok Refusing.scan ∧
    (Refusing.outcome (some 2) = (1, ["a", "b"]) ∧
      Refusing.outcome (some 3) = (2, ["a", "b", "c"]) ∧
      Refusing.outcome none = (3, ["a", "b", "c", "d"])) ∧
    ∀ most, ∃ (t : Seen) (ch' : Channel Script),
      (Refusing.scan.run (.keep most) []).run (.start Refusing.index) =
        ((t.hits, t.ending), ch') ∧
        Refusing.scan.Yields most (.start Refusing.index) t ch' := by
  obtain ⟨s, hplan, -, -, -, hyields⟩ := exists_yields (σ := Script) (c := Refusing.client)
    (w := Refusing.wish) Refusing.trim_aipUuid
  obtain rfl : s = Refusing.scan := Except.ok.inj (hplan.symm.trans Refusing.plan_eq)
  exact ⟨hplan, by decide +kernel, fun most => hyields most (.start Refusing.index)⟩

end Scan

end ArchiveCensus
