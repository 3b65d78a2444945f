import ArchiveCensus.Index.Script
import ArchiveCensus.Proofs.Census.Report
import ArchiveCensus.Proofs.Index.Course
import ArchiveCensus.Proofs.Service.Report

/-!
# Proofs/Service/Whole — a report is on all that was asked for, or there is none

The service reports on a package while it fetches its pages: each document is taken into a census as
it comes.  Where a report comes of it, this is the report on the documents of all pages, as if they
had been gathered first; and every request was answered with a page.  A request that fails is the
last one, and no report comes of the pages before it.

* `Settings.exists_course` — a report is made of the pages of its scan.
* `Service.Whole`, `Service.Refuses` — all or nothing, and the reasons for nothing.
* `Service.reports_whole` — what a call for a report comes to, whatever the index answers.
-/

namespace ArchiveCensus

variable {σ : Type}

/-! ## How many files a report counts -/

namespace Census

/-- The report on a package counts its documents. -/
theorem files_of_reportOf {aipUuid : String} {docs : List Hit} {r : Report}
    (h : reportOf aipUuid docs = .ok r) : r.counters.files = docs.length := by
  rw [reportOf] at h
  cases hout : (start aipUuid).addSources (docs.map Hit.document) >>= report with
  | error d =>
    rw [hout] at h
    cases h
  | ok r' =>
    rw [hout] at h
    cases h
    obtain ⟨c, hadd, hreport⟩ := Outcome.bind_eq_ok_iff.1 hout
    rw [(shows_of_report hreport).counters, files_addSources hadd, List.length_map]
    exact Nat.zero_add _

end Census

/-! ## A report in the making -/

/-- The guard of an operation starts then. -/
theorem Settings.exists_guard (c : Settings) (heedsCaller : Bool) (ch : Channel σ) : ∃ g,
    Guard.start (.double ch.clock) (some (.double c.scanDeadline)) heedsCaller = .ok g ∧
      (c.guard heedsCaller : Call σ Guard).run.run ch = (.ok g, ch) := by
  obtain ⟨g, hg⟩ := Guard.exists_start ch.clock c.scanDeadline heedsCaller
  refine ⟨g, hg, ?_⟩
  rw [guard, Call.run_now_bind, hg]
  rfl

section

variable [Responder σ]

/-- **How a report on a package with a name goes**: it ends in the fault of the course of its scan,
if there is one, and else with the report on the hits of all pages. -/
theorem Settings.exists_course {w : Scan.Wish} (hname : Text.trim w.aipUuid ≠ "") (c : Settings)
    (guard : Guard) (ch : Channel σ) :
    ∃ requests pages fault, ch.Reaches requests ((c.report w guard).run.run ch).2 ∧
      (c.planned w guard).pager.Course ch requests pages fault ∧
      (∀ f, fault = some f → c.reported w guard ch = .error f) ∧
      (fault = none → c.reported w guard ch =
        Census.reportOf (Text.trim w.aipUuid) pages.flatten ∧
        ∀ report, c.reported w guard ch = .ok report →
          Scan.Spent c.limits.scanMaxPages.toNat pages) := by
  obtain ⟨requests, pages, fault, hgoes⟩ :=
    (c.planned w guard).exists_goes_run census (.start (Text.trim w.aipUuid)) ch
  rw [reported, run_report_eq hname]
  generalize ((c.planned w guard).run census (.start (Text.trim w.aipUuid))).run ch = scanned
    at hgoes
  obtain ⟨⟨taken, ending⟩, ch'⟩ := scanned
  refine ⟨requests, pages, fault, ?_, hgoes.course, fun f hfault => ?_, fun hnone => ?_⟩
  · cases ending <;> exact hgoes.reaches
  · obtain ⟨-, rfl⟩ := hgoes.hungry f hfault
    rfl
  · have hends := hgoes.ends hnone
    have hspent := hgoes.spent hnone
    have hfeed := feed_census pages.flatten (.start (Text.trim w.aipUuid))
    rw [Census.reportOf]
    generalize (Census.start (Text.trim w.aipUuid)).addSources (pages.flatten.map Hit.document) =
      out at hfeed
    cases out with
    | ok all =>
      have hfeed : census.feed pages.flatten _ = (all, none) := hfeed
      rw [hfeed] at hends hspent
      cases hends
      exact ⟨rfl, fun _ _ => hspent rfl⟩
    | error d =>
      obtain ⟨left, hfeed⟩ := hfeed
      rw [hfeed] at hends
      cases hends
      exact ⟨rfl, fun _ hok => by cases hok⟩

/-- A package without a name is not reported on. -/
theorem Settings.run_report_nameless {w : Scan.Wish} (hname : Text.trim w.aipUuid = "")
    (c : Settings) (guard : Guard) (ch : Channel σ) :
    (c.report w guard : Call σ Report).run.run ch = (.error (.invalidIdentifier .aip), ch) := by
  rw [report, Scan.plan]
  simp only [hname]
  rfl

/-- Reporting is making a report under a guard that starts then. -/
theorem Settings.run_act_report (c : Settings) (heedsCaller : Bool) (w : Scan.Wish)
    (ch : Channel σ) : ∃ g,
      Guard.start (.double ch.clock) (some (.double c.scanDeadline)) heedsCaller = .ok g ∧
      (c.act heedsCaller (.report w) : Call σ Outcome).run.run ch =
        ((c.reported w g ch).map Outcome.report, ((c.report w g).run.run ch).2) := by
  obtain ⟨g, hg, hguard⟩ := c.exists_guard heedsCaller ch
  refine ⟨g, hg, ?_⟩
  rw [act, Call.run_bind, hguard, reported]
  dsimp only
  rw [Call.run_bind]
  obtain ⟨out, ch'⟩ := (c.report w g).run.run ch
  cases out <;> rfl

/-! ## A call for a report -/

namespace Service

/-- Why a call for a report gives none, after its requests: the service is switched off, the package
has no name, the scan was halted, or there is no report on the hits of its pages. -/
inductive Refuses (c : Settings) (w : Scan.Wish) (g : Guard) (s : Service σ)
    (requests : List Request) : Fault → Prop where
  | off (off : c.serves = false) : Refuses c w g s requests .indexDisabled
  | nameless (blank : Text.trim w.aipUuid = "") :
      Refuses c w g s requests (.invalidIdentifier .aip)
  | halted {f : Fault} (halts : g.Halts s.channel requests f) : Refuses c w g s requests f
  | unreported {pages : List (List Hit)} {f : Fault}
      (gives : List.Forall₂ (fun m page => m.exchange.Gives page)
        (s.channel.moments requests) pages)
      (reports : Census.reportOf (Text.trim w.aipUuid) pages.flatten = .error f) :
      Refuses c w g s requests f

/-- A call for a report is whole: it gives the report on the hits of every page that it was answered
with, which are all pages that there are or may be fetched; or it has a reason to give none. -/
structure Whole (c : Settings) (w : Scan.Wish) (g : Guard) (s : Service σ)
    (result : Except Fault Outcome) (s' : Service σ) (requests : List Request) : Prop where
  sent : s'.channel.sent = s.channel.sent ++ requests
  reaches : s.channel.Reaches requests s'.channel
  /-- Where there is a report, each request was answered with a page, and the report is that on the
  documents of all pages, in order. -/
  complete : ∀ outcome, result = .ok outcome → ∃ pages report,
    List.Forall₂ (fun m page => m.exchange.Gives page) (s.channel.moments requests) pages ∧
      Scan.Spent c.limits.scanMaxPages.toNat pages ∧ outcome = .report report ∧
      Census.reportOf (Text.trim w.aipUuid) pages.flatten = .ok report ∧
      report.counters.files = pages.flatten.length
  /-- A request that fails is the last one. -/
  stops : ∀ (i : Nat) (m : Moment σ), (s.channel.moments requests)[i]? = some m →
    m.exchange.Fails → requests.length = i + 1 ∧
      ∃ message status, result = .error (.indexUnavailable message status)
  refused : ∀ f, result = .error f → Refuses c w g s requests f

/-- A call that asks nothing is whole if it has a reason to. -/
theorem whole_of_unasked {c : Settings} {w : Scan.Wish} {g : Guard} {s s' : Service σ} {f : Fault}
    (hchannel : s'.channel = s.channel) (h : Refuses c w g s [] f) :
    Whole c w g s (.error f) s' [] where
  sent := by rw [hchannel, List.append_nil]
  reaches := hchannel ▸ s.channel.reaches_sendAll []
  complete _ hok := by cases hok
  stops _ _ hm := by cases hm
  refused _ herror := by
    cases herror
    exact h

/-- A call whose scan has a course is whole. -/
theorem whole_of_course {c : Settings} {w : Scan.Wish} {g : Guard} {s s' : Service σ}
    {out : Except Fault Report} {requests : List Request} {pages : List (List Hit)}
    {fault : Option Fault} (hreaches : s.channel.Reaches requests s'.channel)
    (hcourse : (c.planned w g).pager.Course s.channel requests pages fault)
    (hfault : ∀ f, fault = some f → out = .error f)
    (hnone : fault = none → out = Census.reportOf (Text.trim w.aipUuid) pages.flatten ∧
      ∀ report, out = .ok report → Scan.Spent c.limits.scanMaxPages.toNat pages)
    (htimed : g.Timed) (hon : c.client.enabled = true) :
    Whole c w g s (out.map Outcome.report) s' requests where
  sent := hreaches.sent
  reaches := hreaches
  complete outcome hok := by
    cases fault with
    | some f =>
      rw [hfault f rfl] at hok
      cases hok
    | none =>
      obtain ⟨hreport, hspent⟩ := hnone rfl
      cases out with
      | error f => cases hok
      | ok report =>
        cases hok
        exact ⟨pages, report, hcourse.gives, hspent report rfl, rfl, hreport.symm,
          Census.files_of_reportOf hreport.symm⟩
  stops i m hm hfails := by
    obtain ⟨hlast, message, status, hunavailable⟩ := hcourse.of_fails hm hfails
    rw [hfault _ hunavailable]
    exact ⟨hlast, message, status, rfl⟩
  refused f herror := by
    cases fault with
    | some f' =>
      rw [hfault f' rfl] at herror
      cases herror
      exact .halted (hcourse.halts htimed hon)
    | none =>
      cases out with
      | ok report => cases herror
      | error f' =>
        cases herror
        exact .unreported hcourse.gives (hnone rfl).1.symm

/-- **A report is on all that was asked for, or there is none**, whatever the index answers, however
long it takes and whenever the caller cancels. -/
theorem reports_whole (s : Service σ) (c : Settings) (heedsCaller : Bool) (w : Scan.Wish) :
    ∃ g requests,
      Guard.start (.double s.channel.clock) (some (.double c.scanDeadline)) heedsCaller = .ok g ∧
      Whole c w g s (s.perform c heedsCaller (.report w)).1
        (s.perform c heedsCaller (.report w)).2 requests := by
  obtain ⟨g, hg, hact⟩ := c.run_act_report heedsCaller w s.channel
  refine ⟨g, ?_⟩
  cases hserves : c.serves with
  | false =>
    rw [perform_of_not_serves hserves]
    exact ⟨[], hg, whole_of_unasked rfl (.off hserves)⟩
  | true =>
    rw [perform, if_pos hserves, probed, hact]
    dsimp only
    by_cases hname : Text.trim w.aipUuid = ""
    · rw [Settings.reported, Settings.run_report_nameless hname]
      exact ⟨[], hg, whole_of_unasked rfl (.nameless hname)⟩
    · obtain ⟨requests, pages, fault, hreaches, hcourse, hfault, hnone⟩ :=
        Settings.exists_course hname c g s.channel
      have hon : c.client.enabled = true := (Bool.and_eq_true_iff.1 hserves).2
      have htimed : g.Timed := Guard.timed_of_start hg
      exact ⟨requests, hg, whole_of_course hreaches hcourse hfault hnone htimed hon⟩

end Service

end

/-! ## An index that refuses at last, and one that does not -/

namespace Service.Asked

/-- An index that answers with two pages, and with an empty one after them. -/
def index : Script := ⟨[Scan.Refusing.page ["a", "b"], Scan.Refusing.page ["c"]]⟩

/-- The service after a call for a report on the package. -/
def report (index : Script) : Except Fault Outcome × Service Script :=
  (start index).perform TwoFiles.settings true (.report TwoFiles.wish)

/-- How many files are reported. -/
def files? : Except Fault Outcome → Option Nat
  | .ok (.report r) => some r.counters.files
  | _ => none

theorem figures : files? (report index).1 = some 3 ∧
    (report index).2.channel.sent.length = 3 ∧
    failureOf (report Scan.Refusing.index).1 = some "IndexUnavailable" ∧
    (report Scan.Refusing.index).2.channel.sent.length = 3 := by decide +kernel

end Service.Asked

/-- Three files of two pages are reported, and four files of two pages are not, since the index
refuses the third. -/
theorem Service.reports_whole_asked :
    (Asked.files? (Asked.report Asked.index).1 = some 3 ∧
      (Asked.report Asked.index).2.channel.sent.length = 3 ∧
      failureOf (Asked.report Scan.Refusing.index).1 = some "IndexUnavailable" ∧
      (Asked.report Scan.Refusing.index).2.channel.sent.length = 3) ∧
    ∀ index, ∃ g requests,
      Guard.start (.double (start index).channel.clock) (some (.double .zero)) true = .ok g ∧
      Whole TwoFiles.settings TwoFiles.wish g (start index) (Asked.report index).1
        (Asked.report index).2 requests :=
  ⟨Asked.figures, fun index => reports_whole (start index) TwoFiles.settings true TwoFiles.wish⟩

end ArchiveCensus
