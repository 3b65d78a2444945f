import ArchiveCensus.Proofs.Index.Course
import ArchiveCensus.Proofs.Number.Order

/-!
# Proofs/Index/Deadline — nothing is asked too late, and nothing is kept that comes too late

A guard is looked at before each request and after each answer.  Time passes while a request is on
its way, and the caller may cancel then; so a page may come when the guard is due, although its
request was sent when it was not.  Such a page is dropped, and the call ends there.

* `Guard.timeout_le` — how long a request may take.
* `Channel.zero_le_clock` — time that never runs backwards is never before zero.
* `Guard.Minds` — what is promised of the requests of a call.
* `Guard.minds_list_and_scan` — listings and scans keep to it.
-/

namespace ArchiveCensus

variable {σ β : Type}

/-! ## The time that is left -/

namespace Guard

variable {g : Guard} {ch : Channel σ} {deadline : Number}

/-- The deadline of a guard is a time with a place. -/
def Dated (g : Guard) : Prop :=
  ∀ deadline, g.deadline = some deadline → ∃ y, deadline = .double y ∧ deadline.Placed

/-- A guard that is started at a finite time, for a number of seconds with a place, is dated. -/
theorem dated_of_start {now : Binary64} {seconds : Option Number} {heedsCaller : Bool}
    (hnow : now.isFinite = true) (hseconds : ∀ s, seconds = some s → s.Placed)
    (h : start (.double now) seconds heedsCaller = .ok g) : g.Dated := by
  intro deadline hdeadline
  obtain hnone | ⟨s, y, hs, hy, hsome⟩ := deadline_of_start h
  · rw [hnone] at hdeadline
    cases hdeadline
  · rw [hsome] at hdeadline
    cases hdeadline
    exact ⟨_, rfl, Binary64.placed_add hnow ((hseconds s hs).asDouble hy)⟩

/-- Before a deadline, time is finite: the infinite time is after all. -/
theorem isFinite_of_not_due (hg : g.Dated) (hdeadline : g.deadline = some deadline)
    (hclock : (0 : Number) ≤ .double ch.clock) (hnot : ¬ g.Due ch) : ch.clock.isFinite = true := by
  obtain ⟨s, u, hfinite, -⟩ | hinfinite := Binary64.zero_le_iff.1 hclock
  · rw [hfinite]
    rfl
  · obtain ⟨y, -, hplaced⟩ := hg deadline hdeadline
    obtain ⟨p, hp⟩ := Option.isSome_iff_exists.1 hplaced
    have hlast : deadline ≤ .double ch.clock := by
      rw [hinfinite]
      exact Number.le_iff_exists.2 ⟨p, .above, hp, rfl, by cases p <;> rfl⟩
    exact absurd (.inr ⟨deadline, hdeadline, hlast⟩) hnot

theorem placed_leastTimeout : leastTimeout.Placed := Binary64.placed_ofUnits ..

/-- **How long a request may take**: no longer than is left, and no longer than by default, unless
that is less than the least time. -/
theorem timeout_le (hg : g.Dated) (hdeadline : g.deadline = some deadline)
    (hclock : (0 : Number) ≤ .double ch.clock) (hnot : ¬ g.Due ch) {default t : Number}
    (hdefault : default.Placed) (ht : g.timeout (.double ch.clock) default = .ok t) :
    ∃ left, deadline.sub? (.double ch.clock) = some left ∧ t ≤ max leastTimeout left ∧
      t ≤ max leastTimeout default := by
  have hfinite := isFinite_of_not_due hg hdeadline hclock hnot
  obtain ⟨y, rfl, hplaced⟩ := hg deadline hdeadline
  have hleft : (Number.double (y.sub ch.clock)).Placed := Binary64.placed_sub hfinite hplaced
  have hsub : (Number.double y).sub? (.double ch.clock) = some (.double (y.sub ch.clock)) :=
    sub?_double rfl _
  have hleast := placed_leastTimeout
  rw [timeout, hdeadline] at ht
  simp only [hsub] at ht
  obtain rfl : max leastTimeout (min default (.double (y.sub ch.clock))) = t := Except.ok.inj ht
  refine ⟨_, hsub, ?_, ?_⟩
  · exact Number.max_le (Number.le_max_left hleast)
      (Number.le_trans (Number.min_le_right hdefault hleft) (Number.le_max_right hleast hleft))
  · exact Number.max_le (Number.le_max_left hleast)
      (Number.le_trans (Number.min_le_left hdefault) (Number.le_max_right hleast hdefault))

end Guard

/-! ## Time that passes -/

section

variable [Responder σ]

/-- An exchange that takes no negative time leaves the clock where it was, or later. -/
theorem Moment.zero_le_clock {m : Moment σ} (hclock : (0 : Number) ≤ .double m.channel.clock)
    (helapsed : 0 ≤ m.exchange.elapsed) : (0 : Number) ≤ .double m.after.clock := by
  obtain ⟨seconds, hseconds, -, hafter⟩ | ⟨-, -, hafter⟩ := m.send_eq
  · rw [hafter]
    exact Binary64.zero_le_add hclock (Number.zero_le_asDouble helapsed hseconds)
  · rwa [hafter]

/-- **Time that never runs backwards is never before zero**, whenever a request is sent. -/
theorem Channel.zero_le_clock : ∀ (requests : List Request) {ch : Channel σ},
    (0 : Number) ≤ .double ch.clock → (∀ m ∈ ch.moments requests, 0 ≤ m.exchange.elapsed) →
      ∀ m ∈ ch.moments requests, (0 : Number) ≤ .double m.channel.clock
  | [], _, _, _, _, hm => nomatch hm
  | r :: rest, ch, hclock, helapsed, m, hm => by
    rw [moments, List.forall_mem_cons] at helapsed
    obtain ⟨hfirst, hothers⟩ := helapsed
    obtain rfl | hlater := List.mem_cons.1 hm
    · exact hclock
    · exact zero_le_clock rest (Moment.zero_le_clock (m := ⟨ch, r⟩) hclock hfirst) hothers m hlater

/-! ## Guarded calls -/

/-- What is promised of the requests of a call under a guard, where `cancelled` says of some pages
and a cause what it is to be cancelled after them. -/
structure Guard.Minds (g : Guard) (timeout : Number) (ch ch' : Channel σ) (requests : List Request)
    (cancelled : List (List Hit) → StopCause → Prop) : Prop where
  sent : ch'.sent = ch.sent ++ requests
  reaches : ch.Reaches requests ch'
  /-- Nothing is sent when the guard is due. -/
  notDue : ∀ m ∈ ch.moments requests, ¬ g.Due m.channel
  /-- No request may take longer than is left, or longer than by default, but for the least time,
  as long as time does not run backwards. -/
  timeouts : (∀ m ∈ ch.moments requests, 0 ≤ m.exchange.elapsed) →
    ∀ m ∈ ch.moments requests, ∀ deadline, g.deadline = some deadline →
      ∃ left, deadline.sub? (.double m.channel.clock) = some left ∧
        m.request.timeout ≤ max leastTimeout left ∧ m.request.timeout ≤ max leastTimeout timeout
  /-- A page that comes when the guard is due is that of the last request, and the call is cancelled
  after the pages before. -/
  late : ∀ (i : Nat) (m : Moment σ) (page : List Hit), (ch.moments requests)[i]? = some m →
    m.exchange.Gives page → g.Due m.after →
      requests.length = i + 1 ∧ ∃ pages cause, List.Forall₂ (fun m page => m.exchange.Gives page)
        ((ch.moments requests).take i) pages ∧ cancelled pages cause

/-- A call with a course keeps to its guard. -/
theorem Pager.Course.minds {p : Pager} {ch ch' : Channel σ} {requests : List Request}
    {pages : List (List Hit)} {fault : Option Fault} (h : p.Course ch requests pages fault)
    (hreaches : ch.Reaches requests ch') (hg : p.guard.Dated) (htimeout : p.timeout.Placed)
    (hclock : (0 : Number) ≤ .double ch.clock) {cancelled : List (List Hit) → StopCause → Prop}
    (hcancelled : ∀ cause, fault = some (.scanCancelled cause) → cancelled pages cause) :
    p.guard.Minds p.timeout ch ch' requests cancelled where
  sent := hreaches.sent
  reaches := hreaches
  notDue m hm := by
    obtain ⟨_, hsends⟩ := h.exists_sends hm
    exact hsends.notDue
  timeouts helapsed m hm deadline hdeadline := by
    obtain ⟨_, hsends⟩ := h.exists_sends hm
    exact Guard.timeout_le hg hdeadline (Channel.zero_le_clock requests hclock helapsed m hm)
      hsends.notDue htimeout hsends.timeout
  late i m page hm hgives hdue := by
    obtain ⟨hlast, hpages, cause, hfault⟩ := h.of_late hm hgives hdue
    exact ⟨hlast, pages, cause, hpages, hcancelled cause hfault⟩

/-- A scan is cancelled after some pages: its consumer was handed their hits and no others. -/
def Scan.CancelledAfter (c : Consumer β) (b : β) (out : β × Ending) (pages : List (List Hit))
    (cause : StopCause) : Prop :=
  c.feed pages.flatten b = (out.1, none) ∧ out.2 = .failed (.scanCancelled cause)

/-- A scan keeps to its guard. -/
theorem Scan.Goes.minds {s : Scan} {c : Consumer β} {n : Nat} {b : β} {ch ch' : Channel σ}
    {out : β × Ending} {requests : List Request} {pages : List (List Hit)} {fault : Option Fault}
    (h : s.Goes c n b ch out ch' requests pages fault) (hg : s.guard.Dated)
    (htimeout : s.timeout.Placed) (hclock : (0 : Number) ≤ .double ch.clock) :
    s.guard.Minds s.timeout ch ch' requests (CancelledAfter c b out) :=
  h.course.minds h.reaches hg htimeout hclock fun _ hfault => h.hungry _ hfault

/-- **A guard is minded by listings and scans**, whatever the index answers, however long it takes
and whenever the caller cancels: no request is sent when the guard is due, none may take longer than
is left, and a page that comes when the guard is due ends the call, with nothing made of it.  They
keep to this from their start, and from any position on; so it does not matter if the caller
cancels, or time passes, between two pages. -/
theorem Guard.minds_list_and_scan {now : Binary64} {seconds : Option Number} {heedsCaller : Bool}
    {g : Guard} {timeout : Number} {ch : Channel σ}
    (hstart : start (.double now) seconds heedsCaller = .ok g) (hnow : now.isFinite = true)
    (hseconds : ∀ s, seconds = some s → s.Placed) (htimeout : timeout.Placed)
    (hclock : (0 : Number) ≤ .double ch.clock) :
    (∀ (c : Client) (w : Listing.Wish) (limits : Limits) (run : Except Fault Listing × Channel σ),
      (Listing.list c w limits g timeout : Call σ Listing).run.run ch = run →
        ∃ requests, g.Minds timeout ch run.2 requests
          fun _ cause => run.1 = .error (.scanCancelled cause)) ∧
    (∀ p : Listing.Plan, p.guard = g → p.timeout = timeout →
      ∀ (n : Nat) (position : List Json) (done : Listing.Progress)
        (run : Except Fault Listing.Progress × Channel σ),
        (Listing.advance p n position done : Call σ Listing.Progress).run.run ch = run →
          ∃ requests, g.Minds timeout ch run.2 requests
            fun _ cause => run.1 = .error (.scanCancelled cause)) ∧
    ∀ s : Scan, s.guard = g → s.timeout = timeout →
      ∀ (c : Consumer β) (b : β) (run : (β × Ending) × Channel σ),
        (s.run c b).run ch = run ∨
          c.wants b = true ∧ (∃ n position, (s.advance c n position b).run ch = run) →
        ∃ requests, g.Minds timeout ch run.2 requests (Scan.CancelledAfter c b run.1) := by
  have hg : g.Dated := dated_of_start hnow hseconds hstart
  refine ⟨?_, ?_, ?_⟩
  · intro c w limits run hrun
    obtain ⟨requests, pages, fault, hreaches, hcourse, hends⟩ :=
      Listing.exists_course c w limits g timeout ch hrun
    exact ⟨requests, hcourse.minds hreaches hg htimeout hclock fun cause hfault => hends _ hfault⟩
  · rintro p rfl rfl n position done run hrun
    obtain ⟨requests, pages, fault, hreaches, hcourse, hends⟩ :=
      Listing.exists_course_advance p n position done ch hrun
    exact ⟨requests, hcourse.minds hreaches hg htimeout hclock fun cause hfault => hends _ hfault⟩
  · rintro s rfl rfl c b _ (rfl | ⟨hwants, n, position, rfl⟩)
    · obtain ⟨requests, pages, fault, hgoes⟩ := s.exists_goes_run c b ch
      exact ⟨requests, hgoes.minds hg htimeout hclock⟩
    · obtain ⟨requests, pages, fault, hgoes⟩ := s.exists_goes_advance hwants n position ch
      exact ⟨requests, hgoes.minds hg htimeout hclock⟩

end

/-! ## An index that is slow -/

namespace Slow

/-- A good answer with some hits, each with a sort value, after so many seconds. -/
def page (ids : List String) (seconds : Int) : Exchange :=
  { answer := .response 200 "" (.ok (.obj [("hits", .obj [("hits", .arr (ids.map fun id => .obj
      [("_id", .str id), ("_source", .obj [("AIPUUID", .str id)]), ("sort", .arr [.str id])]))])]))
    elapsed := .whole seconds
    cancels := false }

/-- An index that takes three seconds for a page, and then eight. -/
def index : Script := ⟨[page ["a", "b"] 3, page ["c"] 8]⟩

/-- Ten seconds. -/
def seconds : Number := .double (.ofInt 10)

/-- The guard of a call that may take ten seconds from the start. -/
def guard : Guard := ⟨some (.double (.add .zero (.ofInt 10))), true⟩

def client : Client := .ofEndpoint "http://index" (.double .zero)

/-- A call that lists packages. -/
def listed : Except Fault Listing × Channel Script :=
  (Listing.list client ⟨"aipfiles", none, ""⟩ .standard guard 8 : Call Script Listing).run.run
    (.start index)

def scan : Scan :=
  { client := client, index := "aipfiles", aipUuid := "aip", pageSize := 500, maxPages := 1000
    guard := guard, timeout := 8 }

/-- A scan that keeps every hit. -/
def scanned : (List Hit × Ending) × Channel Script :=
  (scan.run (.keep none) []).run (.start index)

/-- The times that the requests may take. -/
def timeouts (ch : Channel Script) : List Number := ch.sent.map Request.timeout

theorem start_eq : Guard.start (.double .zero) (some seconds) true = .ok guard := by
  have hsome : (some seconds).filter (!·.isZero) = some seconds := by decide +kernel
  rw [Guard.start, hsome]
  rfl

theorem placed_seconds : seconds.Placed := by
  rw [seconds, Binary64.ofInt, Binary64.ofQuotient]
  exact Binary64.placed_ofUnits ..

theorem figures : timeouts listed.2 = [8, .double (.ofInt 7)] ∧
    listed.1.toOption.isNone = true ∧ timeouts scanned.2 = [8, .double (.ofInt 7)] ∧
    scanned.1.1.map Hit.id = ["a", "b"] ∧ scanned.1.2 = .failed (.scanCancelled .deadline) := by
  decide +kernel

end Slow

/-- The second page comes a second too late: nothing is listed, and only the hits of the first page
are handed over. -/
theorem Guard.minds_list_and_scan_slow :
    start (.double .zero) (some Slow.seconds) true = .ok Slow.guard ∧
    (Slow.timeouts Slow.listed.2 = [8, .double (.ofInt 7)] ∧
      Slow.listed.1.toOption.isNone = true ∧
      Slow.timeouts Slow.scanned.2 = [8, .double (.ofInt 7)] ∧
      Slow.scanned.1.1.map Hit.id = ["a", "b"] ∧
      Slow.scanned.1.2 = .failed (.scanCancelled .deadline)) ∧
    (∃ requests, Slow.guard.Minds 8 (.start Slow.index) Slow.listed.2 requests
      fun _ cause => Slow.listed.1 = .error (.scanCancelled cause)) ∧
    ∃ requests, Slow.guard.Minds 8 (.start Slow.index) Slow.scanned.2 requests
      (Scan.CancelledAfter (.keep none) [] Slow.scanned.1) := by
  have hseconds : ∀ s, some Slow.seconds = some s → s.Placed := by
    rintro _ ⟨⟩
    exact Slow.placed_seconds
  have hclock : (0 : Number) ≤ .double (Channel.start Slow.index).clock :=
    Binary64.zero_le_iff.2 (.inl ⟨false, 0, rfl, Int.le_refl 0⟩)
  have hminds := minds_list_and_scan (σ := Script) (β := List Hit)
    Slow.start_eq rfl hseconds (Number.placed_whole 8) hclock
  exact ⟨Slow.start_eq, Slow.figures, hminds.1 _ _ _ Slow.listed rfl,
    hminds.2.2 Slow.scan rfl rfl _ _ Slow.scanned (.inl rfl)⟩

end ArchiveCensus
