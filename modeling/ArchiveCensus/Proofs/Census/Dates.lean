import ArchiveCensus.Census.Document
import ArchiveCensus.Proofs.Census.Stable
import ArchiveCensus.Proofs.Time.Rendered

/-!
# Proofs/Census/Dates — what the dates of a report say

The document of a report has dates of three kinds of its own and two with each sample, all of them
rendered instants of the files.  From the year 1000 on such a date is a timestamp of its instant and
is read back; before that it is neither.

* `Renders` — a date of a document that comes of some instants.
* `Report.ShowsDates`, `Census.showsDates_of_report` — the dates of the document of a report come of
  those of its files.
-/

namespace ArchiveCensus

open Timestamp (ofJson IsStampOf)

/-- A date of a document comes of some instants: it is empty if there are none, and else it is one of
them, as a timestamp from the year 1000 on and as a text that is none before that. -/
inductive Renders (j : Json) (instants : List Instant) : Prop where
  | absent (hinstants : instants = []) (hj : j = .str "")
  | stamp (t : Instant) (ht : t ∈ instants) (hj : j = .str t.text) (hyear : 1000 ≤ t.date.year)
      (hstamp : IsStampOf t.text t) (hread : ofJson j = .ok (some t.toSecond))
  | early (t : Instant) (ht : t ∈ instants) (hj : j = .str t.text) (hyear : t.date.year < 1000)
      (hstamp : ¬ IsStampOf t.text t) (hread : ofJson j = .ok none)

/-- A rendered instant that may be absent comes of some instants. -/
theorem renders_date {t? : Option Instant} {instants : List Instant}
    (hnone : t? = none → instants = []) (hsome : ∀ t, t? = some t → t ∈ instants) :
    Renders (Report.date t?) instants := by
  rcases t? with _ | t
  · exact .absent (hnone rfl) rfl
  · have hread := Timestamp.ofJson_text t
    rcases Nat.lt_or_ge t.date.year 1000 with hyear | hyear
    · rw [if_neg (Nat.not_le.2 hyear)] at hread
      exact .early t (hsome t rfl) rfl hyear
        (mt Timestamp.isStampOf_text_iff.1 (Nat.not_le.2 hyear)) hread
    · rw [if_pos hyear] at hread
      exact .stamp t (hsome t rfl) rfl hyear (Timestamp.isStampOf_text_iff.2 hyear) hread

theorem renders_date_toList (t? : Option Instant) : Renders (Report.date t?) t?.toList :=
  renders_date (fun hnone => hnone ▸ rfl) fun _ hsome => Option.mem_toList.2 hsome

namespace Report

/-- The dates of the document of a report on some files come of theirs. -/
structure ShowsDates (report : Json) (records : List IndexedFile) : Prop where
  indexed : ∀ key ∈ ["min_indexed_at", "max_indexed_at"],
    Renders (report.get key) (records.filterMap IndexedFile.indexed)
  created : ∀ key ∈ ["min_created_by_app_date", "max_created_by_app_date"],
    Renders (report.get key) (records.filterMap (·.preservation.created))
  events : ∀ key ∈ ["first_event_date", "last_event_date"],
    Renders (report.get key) (records.flatMap (·.preservation.eventDates))
  /-- Each sample has those of a file. -/
  largest : ∀ sample ∈ (report.get "largest_files").repeated, ∃ f ∈ records,
    sample = (Sample.ofRecord f).toJson ∧
      Renders (sample.get "created_by_app_date") f.preservation.created.toList ∧
      Renders (sample.get "indexed_at") f.indexed.toList

end Report

/-- The ends of a span come of the dates that it bounds. -/
theorem Span.Bounds.renders {s : Span} {dates : List Instant} (h : s.Bounds dates) :
    Renders (Report.date s.first) dates ∧ Renders (Report.date s.last) dates :=
  ⟨renders_date h.first_eq_none.1 fun t ht => (h.first t ht).1,
    renders_date h.last_eq_none.1 fun t ht => (h.last t ht).1⟩

/-- The largest of some files are samples of these. -/
theorem Sample.exists_of_mem_keep {records : List IndexedFile} {s : Sample}
    (h : s ∈ records.foldl keep []) : ∃ f ∈ records, s = ofRecord f := by
  rw [foldl_keep_eq_take] at h
  rcases List.mem_map.1 (List.mem_mergeSort.1 (List.mem_of_mem_take h)) with ⟨f, hf, rfl⟩
  exact ⟨f, List.mem_of_mem_filter hf, rfl⟩

namespace Census

/-- **What the dates of a report say.** -/
theorem showsDates_of_report {aipUuid : String} {sources : List Json} {c : Census} {r : Report}
    (hc : (start aipUuid).addSources sources = .ok c) (hr : c.report = .ok r) :
    ∃ records, sources.mapM IndexedFile.ofSource = .ok records ∧
      Report.ShowsDates r.toJson records := by
  have hshows := shows_of_report hr
  rcases addSources_eq_ok_iff.1 hc with ⟨records, hrecords, rfl⟩
  have hsummary := (summarizes_start aipUuid).addAll (tidy_of_mapM hrecords)
  rw [List.nil_append] at hsummary
  have hindexed := (hshows.indexed ▸ hsummary.indexed).renders
  have hcreated := (hshows.created ▸ hsummary.created).renders
  have hevents := (hshows.events ▸ hsummary.events).renders
  refine ⟨records, hrecords, ?_⟩
  exact {
    indexed := List.forall_mem_cons.2 ⟨hindexed.1, List.forall_mem_singleton.2 hindexed.2⟩
    created := List.forall_mem_cons.2 ⟨hcreated.1, List.forall_mem_singleton.2 hcreated.2⟩
    events := List.forall_mem_cons.2 ⟨hevents.1, List.forall_mem_singleton.2 hevents.2⟩
    largest := fun sample hsample => by
      rcases List.mem_map.1 hsample with ⟨s, hs, rfl⟩
      rw [hshows.largest, largest_addAll] at hs
      rcases Sample.exists_of_mem_keep hs with ⟨f, hf, rfl⟩
      exact ⟨f, hf, rfl, renders_date_toList _, renders_date_toList _⟩ }

/-- **Which rendered instants are timestamps that are read back.**  Any instant can be read from a
document, and what is rendered of it is the timestamp of its second, and is read back as that, from
the year 1000 on; before that it is no timestamp, and nothing is read.  Seconds since 1970 come to
later instants only.  So it is with the dates of any report, its samples included. -/
theorem rendered_dates {aipUuid : String} {sources : List Json} {c : Census} {r : Report}
    (hc : (start aipUuid).addSources sources = .ok c) (hr : c.report = .ok r) :
    (∀ t : Instant, (∃ j, ofJson j = .ok (some t)) ∧
      (IsStampOf t.text t ↔ 1000 ≤ t.date.year) ∧
      ofJson (.str t.text) = .ok (if 1000 ≤ t.date.year then some t.toSecond else none)) ∧
    (∀ (x : Binary64) (t : Instant), Instant.ofSeconds? x = some t →
      IsStampOf t.text t ∧ ofJson (.str t.text) = .ok (some t.toSecond)) ∧
    ∃ records, sources.mapM IndexedFile.ofSource = .ok records ∧
      Report.ShowsDates r.toJson records := by
  refine ⟨fun t => ?_, fun x t ht => ?_, showsDates_of_report hc hr⟩
  · exact ⟨⟨_, Timestamp.ofJson_fullText t⟩, Timestamp.isStampOf_text_iff, Timestamp.ofJson_text t⟩
  · have hyear : 1000 ≤ t.date.year := Nat.le_trans (by decide) (Instant.year_of_ofSeconds? ht)
    refine ⟨Timestamp.isStampOf_text_iff.2 hyear, ?_⟩
    rw [Timestamp.ofJson_text, if_pos hyear]

/-- A document of a file of the year 999. -/
def chronicle : Json :=
  .obj [("filePath", .str "objects/annals.txt"), ("size", .int 7), ("indexedAt", .int 1700000000),
    ("METS", .obj [("amdSec", .obj [("mets:amdSec_dict", .obj [("mets:digiprovMD_dict",
      .obj [("mets:mdWrap_dict", .obj [("mets:xmlData_dict", .obj [("premis:event_dict",
        .obj [("premis:eventDateTime", .str "0999-05-06T07:08:09Z")])])])])])])])]

/-- The report on the file has an event on a date that is no timestamp, and the file was indexed on
one that is. -/
theorem rendered_dates_chronicle : ∃ c r records,
    (start "aip").addSources [chronicle] = .ok c ∧ c.report = .ok r ∧
    [chronicle].mapM IndexedFile.ofSource = .ok records ∧ Report.ShowsDates r.toJson records ∧
    Instant.textOf r.events.first = "999-05-06T07:08:09Z" ∧
    Instant.textOf r.indexed.first = "2023-11-14T22:13:20Z" := by
  have htexts : ((start "aip").addSources [chronicle] >>= fun c => c.report.map fun r =>
      (Instant.textOf r.events.first, Instant.textOf r.indexed.first)).toOption =
        some ("999-05-06T07:08:09Z", "2023-11-14T22:13:20Z") := by decide +kernel
  rcases exists_report_of htexts with ⟨c, r, hc, hr, hknown⟩
  rcases rendered_dates hc hr with ⟨-, -, records, hrecords, hshows⟩
  exact ⟨c, r, records, hc, hr, hrecords, hshows, (Prod.mk.inj hknown).1, (Prod.mk.inj hknown).2⟩

end Census

end ArchiveCensus
