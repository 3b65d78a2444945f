import ArchiveCensus.Proofs.Index.Lazy
import ArchiveCensus.Proofs.Index.Listed

/-!
# Proofs/Index/Course — the requests of a call, from the first to the last

A call that fetches pages sends its requests one after another, and each changes the channel that
the next one is sent on.  All of them but the last brought a page in time; the last one may have
broken the call, or one more is not sent, and then the call ends in the fault that came of it.

* `Channel.moments` — requests sent one after another, each on its way.
* `Channel.Reaches` — the channel that they leave, but for the warnings.
* `Pager.Course` — the requests of a call, the pages that they brought, and the fault that it may
  have ended in.
* `Pager.Course.of_fails`, `Pager.Course.of_late` — a request that brings no page in time is the
  last one.
* `Pager.Course.halts` — why a call ends in a fault.
* `Scan.exists_goes_advance`, `Scan.exists_goes_run` — a scan has such a course, for any consumer.
* `Listing.exists_course_advance`, `Listing.exists_course` — so has a listing.
-/

namespace ArchiveCensus

variable {σ β : Type}

/-! ## Requests one after another -/

namespace Channel

variable [Responder σ]

/-- The channel after requests that are sent one after another. -/
def sendAll (ch : Channel σ) : List Request → Channel σ
  | [] => ch
  | r :: rest => (Moment.mk ch r).after.sendAll rest

/-- Requests that are sent one after another, each on its way. -/
def moments (ch : Channel σ) : List Request → List (Moment σ)
  | [] => []
  | r :: rest => ⟨ch, r⟩ :: (Moment.mk ch r).after.moments rest

theorem sent_sendAll : ∀ (requests : List Request) (ch : Channel σ),
    (ch.sendAll requests).sent = ch.sent ++ requests
  | [], ch => (List.append_nil _).symm
  | r :: rest, ch => by
    rw [sendAll, sent_sendAll rest, Moment.sent_after, List.append_assoc]
    rfl

/-- One channel reaches another by requests: these are sent one after another, and nothing else is
done to it, but that there may be warnings. -/
def Reaches (ch : Channel σ) (requests : List Request) (ch' : Channel σ) : Prop :=
  ∃ warnings, ch' = { ch.sendAll requests with warnings := warnings }

theorem reaches_sendAll (ch : Channel σ) (requests : List Request) :
    ch.Reaches requests (ch.sendAll requests) := ⟨_, rfl⟩

/-- The requests by which a channel is reached are those that were sent. -/
theorem Reaches.sent {requests : List Request} {ch ch' : Channel σ}
    (h : ch.Reaches requests ch') : ch'.sent = ch.sent ++ requests := by
  obtain ⟨warnings, rfl⟩ := h
  exact sent_sendAll requests ch

/-- Warnings do not matter to where a channel is reached. -/
theorem Reaches.warned {requests : List Request} {ch ch' : Channel σ} (h : ch.Reaches requests ch')
    (warnings : List Warning) : ch.Reaches requests { ch' with warnings := warnings } := by
  obtain ⟨_, rfl⟩ := h
  exact ⟨warnings, rfl⟩

theorem sendAll_concat (r : Request) : ∀ (requests : List Request) (ch : Channel σ),
    ch.sendAll (requests ++ [r]) = (Moment.mk (ch.sendAll requests) r).after
  | [], _ => rfl
  | first :: rest, ch => sendAll_concat r rest (Moment.mk ch first).after

theorem moments_concat (r : Request) : ∀ (requests : List Request) (ch : Channel σ),
    ch.moments (requests ++ [r]) = ch.moments requests ++ [⟨ch.sendAll requests, r⟩]
  | [], _ => rfl
  | first :: rest, ch => by
    rw [List.cons_append, moments, moments_concat r rest, moments, sendAll]
    rfl

@[simp] theorem length_moments : ∀ (requests : List Request) (ch : Channel σ),
    (ch.moments requests).length = requests.length
  | [], _ => rfl
  | r :: rest, ch => by
    rw [moments, List.length_cons, length_moments rest, List.length_cons]

end Channel

/-- Why a call ends in a fault after its requests: the guard is due, the last request failed, or it
took more seconds than can be counted. -/
inductive Guard.Halts [Responder σ] (g : Guard) (ch : Channel σ) (requests : List Request) :
    Fault → Prop where
  | due {cause : StopCause} (due : g.Due (ch.sendAll requests)) :
      Halts g ch requests (.scanCancelled cause)
  | failed {m : Moment σ} {message : String} {status : Option Int}
      (last : (ch.moments requests).getLast? = some m) (fails : m.exchange.Fails) :
      Halts g ch requests (.indexUnavailable message status)
  | lost {m : Moment σ} (last : (ch.moments requests).getLast? = some m)
      (endless : m.exchange.elapsed.asDouble? = none) : Halts g ch requests (.defect .wholeTooLarge)

namespace Pager

variable [Responder σ]

/-- A request brings a page in time. -/
structure Brings (p : Pager) (m : Moment σ) (page : List Hit) : Prop where
  sends : ∃ position, p.Sends position m
  gives : m.exchange.Gives page
  intime : ¬ p.guard.Due m.after

/-- A request breaks a call with a fault: it brings its page too late, it fails, or it takes more
seconds than can be counted. -/
inductive Breaks (p : Pager) (m : Moment σ) : Fault → Prop where
  | late {position : List Json} {page : List Hit} {cause : StopCause} (sends : p.Sends position m)
      (gives : m.exchange.Gives page) (due : p.guard.Due m.after) :
      Breaks p m (.scanCancelled cause)
  | failed {position : List Json} {message : String} {status : Option Int}
      (sends : p.Sends position m) (fails : m.exchange.Fails) :
      Breaks p m (.indexUnavailable message status)
  | lost {position : List Json} (sends : p.Sends position m)
      (endless : m.exchange.elapsed.asDouble? = none) : Breaks p m (.defect .wholeTooLarge)

/-- The course of a call: its requests, the pages that they brought, and the fault that it ended in
if a page could not be fetched. -/
inductive Course (p : Pager) (ch : Channel σ) :
    List Request → List (List Hit) → Option Fault → Prop where
  /-- Every request brought a page, and no more were wanted. -/
  | through {requests : List Request} {pages : List (List Hit)}
      (brings : List.Forall₂ p.Brings (ch.moments requests) pages) :
      Course p ch requests pages none
  /-- Every request brought a page, and one more is not sent. -/
  | withheld {requests : List Request} {pages : List (List Hit)} {f : Fault}
      (brings : List.Forall₂ p.Brings (ch.moments requests) pages)
      (withholds : p.Withholds (ch.sendAll requests) f) : Course p ch requests pages (some f)
  /-- The last request broke the call. -/
  | broken {requests : List Request} {r : Request} {pages : List (List Hit)} {f : Fault}
      (brings : List.Forall₂ p.Brings (ch.moments requests) pages)
      (breaks : p.Breaks ⟨ch.sendAll requests, r⟩ f) :
      Course p ch (requests ++ [r]) pages (some f)

variable {p : Pager} {position : List Json} {ch ch₁ ch' : Channel σ} {pages : List (List Hit)}

/-- Pages that are fetched one after another are brought by requests. -/
theorem Fetches.exists_brings (h : p.Fetches position ch pages ch') :
    ∃ requests, ch' = ch.sendAll requests ∧
      List.Forall₂ p.Brings (ch.moments requests) pages := by
  induction h with
  | nil position ch => exact ⟨[], rfl, .nil⟩
  | @cons position ch ch₁ ch' page pages hfetch _ ih =>
    obtain ⟨requests, hafter, hbrings⟩ := ih
    have hturn := p.turn position ch
    rw [hfetch] at hturn
    cases hturn with
    | @page r _ sends gives intime =>
      exact ⟨r :: requests, hafter, .cons ⟨⟨position, sends⟩, gives, intime⟩ hbrings⟩

/-- The course of a call that ends after its pages. -/
theorem Fetches.exists_course (h : p.Fetches position ch pages ch') :
    ∃ requests, ch' = ch.sendAll requests ∧ p.Course ch requests pages none := by
  obtain ⟨requests, hafter, hbrings⟩ := h.exists_brings
  exact ⟨requests, hafter, .through hbrings⟩

/-- The course of a call that ends with a page that cannot be fetched. -/
theorem Fetches.exists_course_of_error (h : p.Fetches position ch pages ch₁)
    {next : List Json} {f : Fault} (hfetch : (p.fetch next).run.run ch₁ = (.error f, ch')) :
    ∃ requests, ch.Reaches requests ch' ∧ p.Course ch requests pages (some f) := by
  obtain ⟨requests, rfl, hbrings⟩ := h.exists_brings
  have hlast : ∀ r, ch.Reaches (requests ++ [r]) (Moment.mk (ch.sendAll requests) r).after :=
    fun r => Channel.sendAll_concat r requests ch ▸ Channel.reaches_sendAll ..
  have hturn := p.turn next (ch.sendAll requests)
  rw [hfetch] at hturn
  cases hturn with
  | unsent withholds =>
    exact ⟨requests, Channel.reaches_sendAll .., .withheld hbrings withholds⟩
  | late sends gives due => exact ⟨_, hlast _, .broken hbrings (.late sends gives due)⟩
  | failed sends fails _ => exact ⟨_, (hlast _).warned _, .broken hbrings (.failed sends fails)⟩
  | lost sends endless => exact ⟨_, hlast _, .broken hbrings (.lost sends endless)⟩

/-! ## What a request of a call was -/

theorem Breaks.sends {m : Moment σ} {f : Fault} (h : p.Breaks m f) :
    ∃ position, p.Sends position m := by
  cases h with
  | late sends => exact ⟨_, sends⟩
  | failed sends => exact ⟨_, sends⟩
  | lost sends => exact ⟨_, sends⟩

/-- Each of the requests that brought pages brought one of them. -/
theorem exists_brings_of_mem {moments : List (Moment σ)} {m : Moment σ}
    (h : List.Forall₂ p.Brings moments pages) (hm : m ∈ moments) : ∃ page, p.Brings m page := by
  obtain ⟨j, hj, rfl⟩ := List.getElem_of_mem hm
  exact ⟨_, h.get hj (h.length_eq ▸ hj)⟩

namespace Course

variable {requests : List Request} {fault : Option Fault} {m : Moment σ} {i : Nat}

/-- **A request of a call brought a page, or it is the last one and broke the call.** -/
theorem brings_or_breaks (h : p.Course ch requests pages fault)
    (hm : (ch.moments requests)[i]? = some m) :
    (∃ page, p.Brings m page) ∨
      requests.length = i + 1 ∧ List.Forall₂ p.Brings ((ch.moments requests).take i) pages ∧
        ∃ f, fault = some f ∧ p.Breaks m f := by
  cases h with
  | through brings | withheld brings _ =>
    exact .inl (exists_brings_of_mem brings (List.mem_of_getElem? hm))
  | @broken before r _ f brings breaks =>
    rw [Channel.moments_concat] at hm ⊢
    obtain hless | hmore := Nat.lt_or_ge i (ch.moments before).length
    · rw [List.getElem?_append_left hless] at hm
      exact .inl (exists_brings_of_mem brings (List.mem_of_getElem? hm))
    · rw [List.getElem?_append_right hmore] at hm
      have hlast : i = (ch.moments before).length := by
        have hzero := (List.getElem?_eq_some_iff.1 hm).1
        rw [List.length_singleton] at hzero
        omega
      rw [hlast, Nat.sub_self] at hm
      cases hm
      refine .inr ⟨?_, ?_, f, rfl, breaks⟩
      · rw [hlast, Channel.length_moments, List.length_append, List.length_singleton]
      · rwa [hlast, List.take_left]

/-- Each request was sent for a page. -/
theorem exists_sends (h : p.Course ch requests pages fault) {m : Moment σ}
    (hm : m ∈ ch.moments requests) : ∃ position, p.Sends position m := by
  obtain ⟨i, hi⟩ := List.getElem?_of_mem hm
  obtain ⟨_, hbrings⟩ | ⟨-, -, _, -, hbreaks⟩ := h.brings_or_breaks hi
  · exact hbrings.sends
  · exact hbreaks.sends

/-- A call that ends without a fault was given its pages. -/
theorem gives (h : p.Course ch requests pages none) :
    List.Forall₂ (fun m page => m.exchange.Gives page) (ch.moments requests) pages := by
  cases h with
  | through brings => exact brings.imp fun _ _ hone => hone.gives

/-- **A request that fails is the last one**, and the call ends with the index unavailable. -/
theorem of_fails (h : p.Course ch requests pages fault)
    (hm : (ch.moments requests)[i]? = some m) (hfails : m.exchange.Fails) :
    requests.length = i + 1 ∧
      ∃ message status, fault = some (.indexUnavailable message status) := by
  obtain ⟨page, hbrings⟩ | ⟨hlast, -, f, hfault, hbreaks⟩ := h.brings_or_breaks hm
  · exact absurd hbrings.gives (hfails.not_gives page)
  · cases hbreaks with
    | late _ gives _ => exact absurd gives (hfails.not_gives _)
    | failed _ _ => exact ⟨hlast, _, _, hfault⟩
    | lost _ endless =>
      have helapsed := hfails.elapsed
      rw [endless] at helapsed
      cases helapsed

/-- **A request whose page comes when the guard is due is the last one**: the call is cancelled, and
has the pages of the requests before. -/
theorem of_late (h : p.Course ch requests pages fault)
    (hm : (ch.moments requests)[i]? = some m) {page : List Hit} (hgives : m.exchange.Gives page)
    (hdue : p.guard.Due m.after) :
    requests.length = i + 1 ∧
      List.Forall₂ (fun m page => m.exchange.Gives page) ((ch.moments requests).take i) pages ∧
      ∃ cause, fault = some (.scanCancelled cause) := by
  obtain ⟨page, hbrings⟩ | ⟨hlast, hpages, f, hfault, hbreaks⟩ := h.brings_or_breaks hm
  · exact absurd hdue hbrings.intime
  · refine ⟨hlast, hpages.imp fun _ _ hone => hone.gives, ?_⟩
    cases hbreaks with
    | late _ _ _ => exact ⟨_, hfault⟩
    | failed _ fails => exact absurd hgives (fails.not_gives page)
    | lost _ endless =>
      have helapsed := hgives.elapsed
      rw [endless] at helapsed
      cases helapsed

/-- **A call under a timed guard has a reason to end in a fault**, as long as there is an index to
ask. -/
theorem halts {f : Fault} (h : p.Course ch requests pages (some f)) (hguard : p.guard.Timed)
    (hon : p.client.enabled = true) : p.guard.Halts ch requests f := by
  have hlast : ∀ (before : List Request) (r : Request),
      (ch.moments (before ++ [r])).getLast? = some ⟨ch.sendAll before, r⟩ := fun before r => by
    rw [Channel.moments_concat, List.getLast?_concat]
  cases h with
  | withheld _ withholds =>
    cases withholds with
    | due due => exact .due due
    | untimed untimed =>
      obtain ⟨t, ht⟩ := hguard.exists_timeout (ch.sendAll requests).clock p.timeout
      rw [ht] at untimed
      cases untimed
    | disabled off =>
      rw [hon] at off
      cases off
  | @broken before r _ _ _ breaks =>
    cases breaks with
    | late _ _ due => exact .due (Channel.sendAll_concat r before ch ▸ due)
    | failed _ fails => exact .failed (hlast before r) fails
    | lost _ endless => exact .lost (hlast before r) endless

end Course

end Pager

/-! ## Scans -/

namespace Scan

variable [Responder σ] {s : Scan} {c : Consumer β} {b : β} {ch : Channel σ}

/-- No more pages follow these: the last one leaves off nowhere, or they are as many as may be
fetched. -/
def Spent (most : Nat) (pages : List (List Hit)) : Prop :=
  (∃ page, pages.getLast? = some page ∧ lastSort page = []) ∨ pages.length = most

/-- How a scan goes that may fetch `n` pages: its consumer is handed the hits of the pages that its
requests brought, and ends in the fault of its course, if there is one, and else as the consumer
does, or with the pages. -/
structure Goes (s : Scan) (c : Consumer β) (n : Nat) (b : β) (ch : Channel σ) (out : β × Ending)
    (ch' : Channel σ) (requests : List Request) (pages : List (List Hit)) (fault : Option Fault) :
    Prop where
  reaches : ch.Reaches requests ch'
  course : s.pager.Course ch requests pages fault
  hungry : ∀ f, fault = some f → c.feed pages.flatten b = (out.1, none) ∧ out.2 = .failed f
  ends : fault = none → out = finish (c.feed pages.flatten b)
  spent : fault = none → (c.feed pages.flatten b).2 = none → Spent n pages

/-- **How a scan goes on from a position**, for any consumer. -/
theorem exists_goes_advance (s : Scan) (hwants : c.wants b = true) (n : Nat)
    (position : List Json) (ch : Channel σ) :
    ∃ requests pages fault, s.Goes c n b ch ((s.advance c n position b).run ch).1
      ((s.advance c n position b).run ch).2 requests pages fault := by
  obtain ⟨pages, ch₁, hfetches, -, -, htail⟩ := run_advance s c n position ch hwants
  generalize (s.advance c n position b).run ch = run at htail
  obtain ⟨out, ch'⟩ := run
  dsimp only at htail ⊢
  -- no request is sent and no time passes after the pages, but where one more is not fetched
  cases htail with
  | handed feed _ =>
    obtain ⟨requests, rfl, hcourse⟩ := hfetches.exists_course
    exact ⟨requests, pages, none, ch.reaches_sendAll requests, hcourse, fun _ hf => (nomatch hf),
      fun _ => by rw [feed]; rfl, fun _ hnone => by rw [feed] at hnone; cases hnone⟩
  | ended feed last ends =>
    obtain ⟨requests, rfl, hcourse⟩ := hfetches.exists_course
    exact ⟨requests, pages, none, ch.reaches_sendAll requests, hcourse, fun _ hf => (nomatch hf),
      fun _ => by rw [feed]; rfl, fun _ _ => .inl ⟨_, last, ends⟩⟩
  | ceiling feed full _ =>
    obtain ⟨requests, rfl, hcourse⟩ := hfetches.exists_course
    exact ⟨requests, pages, none, (ch.reaches_sendAll requests).warned _, hcourse,
      fun _ hf => (nomatch hf), fun _ => by rw [feed]; rfl, fun _ _ => .inr full⟩
  | failed feed _ _ fetch =>
    obtain ⟨requests, hreaches, hcourse⟩ := hfetches.exists_course_of_error fetch
    refine ⟨requests, pages, some _, hreaches, hcourse, fun f hf => ?_,
      fun hnone => (nomatch hnone), fun hnone => (nomatch hnone)⟩
    cases hf
    exact ⟨feed, rfl⟩

/-- **How a scan goes from its start.** -/
theorem exists_goes_run (s : Scan) (c : Consumer β) (start : β) (ch : Channel σ) :
    ∃ requests pages fault, s.Goes c s.maxPages.toNat start ch ((s.run c start).run ch).1
      ((s.run c start).run ch).2 requests pages fault := by
  unfold run
  split
  · next hwants => exact s.exists_goes_advance hwants s.maxPages.toNat [] ch
  · next hnot =>
    have hfeed : c.feed ([] : List (List Hit)).flatten start = (start, some .taken) :=
      Consumer.feed_of_not_wants (eq_false_of_ne_true hnot) _
    exact ⟨[], [], none, ch.reaches_sendAll [], .through .nil, fun _ hf => (nomatch hf),
      fun _ => by rw [hfeed]; rfl, fun _ hnone => by rw [hfeed] at hnone; cases hnone⟩

end Scan

/-! ## Listings -/

namespace Listing

variable [Responder σ]

/-- **Going from page to page** fetches pages one after another, and then stops or fails to fetch
one more. -/
theorem exists_fetches_advance (p : Plan) :
    ∀ (n : Nat) (position : List Json) (done : Progress) (ch : Channel σ),
      ∃ pages ch₁, p.pager.Fetches position ch pages ch₁ ∧
        ((∃ out, (advance p n position done : Call σ Progress).run.run ch = (.ok out, ch₁)) ∨
          ∃ next f ch', (p.pager.fetch next).run.run ch₁ = (.error f, ch') ∧
            (advance p n position done : Call σ Progress).run.run ch = (.error f, ch'))
  | 0, position, done, ch => ⟨[], ch, .nil .., .inl ⟨done, rfl⟩⟩
  | n + 1, position, done, ch => by
    rw [run_advance_succ]
    split
    · exact ⟨[], ch, .nil .., .inl ⟨done, rfl⟩⟩
    · cases hfetch : (p.pager.fetch position).run.run ch with
      | mk res ch₁ =>
      cases res with
      | error f => exact ⟨[], ch, .nil .., .inr ⟨position, f, ch₁, hfetch, rfl⟩⟩
      | ok page =>
        dsimp only
        split
        · exact ⟨[page], ch₁, .cons hfetch (.nil ..), .inl ⟨_, rfl⟩⟩
        · obtain ⟨pages, ch₂, hfetches, hend⟩ := exists_fetches_advance p n (lastSort page)
            (done.next p.limit page) ch₁
          exact ⟨page :: pages, ch₂, .cons hfetch hfetches, hend⟩

/-- **Going from page to page has a course**, and ends in its fault if there is one. -/
theorem exists_course_advance (p : Plan) (n : Nat) (position : List Json) (done : Progress)
    (ch : Channel σ) {run : Except Fault Progress × Channel σ}
    (hrun : (advance p n position done : Call σ Progress).run.run ch = run) :
    ∃ requests pages fault, ch.Reaches requests run.2 ∧ p.pager.Course ch requests pages fault ∧
      ∀ f, fault = some f → run.1 = .error f := by
  subst hrun
  obtain ⟨pages, ch₁, hfetches, ⟨out, hout⟩ | ⟨next, f, ch', hfetch, hout⟩⟩ :=
    exists_fetches_advance p n position done ch
  · rw [hout]
    obtain ⟨requests, rfl, hcourse⟩ := hfetches.exists_course
    exact ⟨requests, pages, none, ch.reaches_sendAll requests, hcourse, fun _ hf => nomatch hf⟩
  · rw [hout]
    obtain ⟨requests, hreaches, hcourse⟩ := hfetches.exists_course_of_error hfetch
    exact ⟨requests, pages, some f, hreaches, hcourse, fun _ hf => by cases hf; rfl⟩

/-- **A listing has a course**, and ends in its fault if there is one. -/
theorem exists_course (c : Client) (w : Wish) (limits : Limits) (guard : Guard) (timeout : Number)
    (ch : Channel σ) {run : Except Fault Listing × Channel σ}
    (hrun : (list c w limits guard timeout : Call σ Listing).run.run ch = run) :
    ∃ requests pages fault, ch.Reaches requests run.2 ∧
      (planned c w limits guard timeout).pager.Course ch requests pages fault ∧
      ∀ f, fault = some f → run.1 = .error f := by
  subst hrun
  cases hcursor : Cursor.decode w.cursor with
  | error f =>
    have hnone : (list c w limits guard timeout : Call σ Listing).run.run ch = (.error f, ch) := by
      unfold list
      rw [hcursor, Call.run_bind]
      rfl
    rw [hnone]
    exact ⟨[], [], none, ch.reaches_sendAll [], .through .nil, fun _ hf => nomatch hf⟩
  | ok after =>
    obtain ⟨requests, pages, fault, hreaches, hcourse, hends⟩ :=
      exists_course_advance (planned c w limits guard timeout) limits.listMaxPages.toNat
        (after.getD []) ⟨[], 0, []⟩ ch rfl
    rw [run_list hcursor]
    generalize (advance _ _ _ _ : Call σ Progress).run.run ch = run at *
    obtain ⟨out, ch'⟩ := run
    refine ⟨requests, pages, fault, ?_, hcourse, fun f hfault => ?_⟩
    · cases out <;> exact hreaches
    · obtain rfl : out = .error f := hends f hfault
      rfl

end Listing

end ArchiveCensus
