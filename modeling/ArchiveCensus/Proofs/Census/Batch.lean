import ArchiveCensus.Proofs.Census.Parts
import ArchiveCensus.Proofs.Metadata.Tidy

/-!
# Proofs/Census/Batch — a census of files one by one is a census of all of them

A census keeps no file, and takes in one after another.  It still says of the files what they would
say taken together: `Summarizes` is that, table by table.

* `Census.Summarizes.add` — one more file is one more file to summarize.
* `Census.Summarizes.addAll` — so any run of files is summarized.
* `Census.exists_summarizes` — the documents that a census takes in have records, and it summarizes
  these.
-/

namespace ArchiveCensus

namespace Census

/-! ## What a census says of its files -/

/-- A census summarizes some files: the tallies count what the files state, the sets have it, and
the spans bound its dates. -/
structure Summarizes (c : Census) (records : List IndexedFile) : Prop where
  files : c.counters.files = records.length
  bytes : c.counters.bytes = (records.map IndexedFile.size).foldl (· + ·) 0
  status : c.tables.status.Counts (records.map IndexedFile.status)
  origin : c.tables.origin.Counts (records.map IndexedFile.origin)
  accession : c.tables.accession.Counts (records.map IndexedFile.accessionId)
  isPartOf : c.tables.isPartOf.Counts (records.flatMap IndexedFile.isPartOf)
  applicationVersion :
    c.tables.applicationVersion.Counts (records.map IndexedFile.applicationVersion)
  registryKey : c.tables.registryKey.Counts (records.map (·.preservation.format.registryKey))
  formatName : c.tables.formatName.Counts (records.map (·.preservation.format.name))
  /-- Of the formats of which anything is stated. -/
  format : c.tables.format.Counts
    (((records.map (·.preservation.format)).filter Format.isStated).map Format.signature)
  /-- Of all events of all files. -/
  eventType : c.tables.eventType.Counts
    ((records.flatMap (·.preservation.events)).map Event.type)
  eventOutcome : c.tables.eventOutcome.Counts
    ((records.flatMap (·.preservation.events)).map Event.outcome)
  eventTool : c.tables.eventTool.Counts
    ((records.flatMap (·.preservation.events)).map Event.tool)
  extension : c.tables.extension.Counts (records.map (FileName.extension ·.path))
  /-- Of the file names that are not empty, in lower case. -/
  fileName : c.tables.fileName.Counts
    (((records.map IndexedFile.fileName).filter (!·.isEmpty)).map Text.lower)
  sipNames : Distinct.SetOf c.distinct.sipNames (records.map IndexedFile.sipName)
  fileUuids : Distinct.SetOf c.distinct.fileUuids (records.map IndexedFile.fileUuid)
  normalizedIds :
    Distinct.SetOf c.distinct.normalizedIds (records.flatMap (·.preservation.normalizedIds))
  formats : Distinct.SetOf c.distinct.formats
    (((records.map (·.preservation.format)).filter Format.isStated).map Format.signature)
  indexed : c.times.indexed.Bounds (records.filterMap IndexedFile.indexed)
  created : c.times.created.Bounds (records.filterMap (·.preservation.created))
  events : c.times.events.Bounds (records.flatMap (·.preservation.eventDates))
  delays : c.times.delays = records.filterMap Times.delay?

theorem summarizes_start (aipUuid : String) : (start aipUuid).Summarizes [] where
  files := rfl
  bytes := rfl
  status := Tally.counts_nil
  origin := Tally.counts_nil
  accession := Tally.counts_nil
  isPartOf := Tally.counts_nil
  applicationVersion := Tally.counts_nil
  registryKey := Tally.counts_nil
  formatName := Tally.counts_nil
  format := Tally.counts_nil
  eventType := Tally.counts_nil
  eventOutcome := Tally.counts_nil
  eventTool := Tally.counts_nil
  extension := Tally.counts_nil
  fileName := Tally.counts_nil
  sipNames := Distinct.setOf_nil
  fileUuids := Distinct.setOf_nil
  normalizedIds := Distinct.setOf_nil
  formats := Distinct.setOf_nil
  indexed := Span.bounds_empty
  created := Span.bounds_empty
  events := Span.bounds_empty
  delays := rfl

/-! ## One more file -/

theorem flatMap_concat {α β : Type} (f : α → List β) (items : List α) (a : α) :
    (items ++ [a]).flatMap f = items.flatMap f ++ f a := by
  rw [List.flatMap_append, List.flatMap_singleton]

theorem filterMap_concat {α β : Type} (f : α → Option β) (items : List α) (a : α) :
    (items ++ [a]).filterMap f = items.filterMap f ++ (f a).toList := by
  rw [List.filterMap_append]
  cases h : f a <;> simp [h]

theorem map_filter_concat {α β : Type} (p : α → Bool) (f : α → β) (items : List α) (a : α) :
    ((items ++ [a]).filter p).map f =
      (items.filter p).map f ++ if p a then [f a] else [] := by
  rw [List.filter_append, List.map_append]
  cases h : p a <;> simp [h]

variable {c : Census} {records : List IndexedFile}

/-- A format is counted where anything is stated of it. -/
theorem counts_format {t : Tally} {texts : List String} (h : t.Counts texts) (f : Format) :
    (if f.isStated then t.bump f.signature else t).Counts
      (texts ++ if f.isStated then [f.signature] else []) := by
  split
  · exact h.bump f.signature_ne_empty
  · rwa [List.append_nil]

theorem setOf_formats {set texts : List String} (h : Distinct.SetOf set texts) (f : Format) :
    Distinct.SetOf (if f.isStated then set.insert f.signature else set)
      (texts ++ if f.isStated then [f.signature] else []) := by
  split
  · exact h.insert f.signature_ne_empty
  · rwa [List.append_nil]

/-- A file name is counted in lower case unless it is empty. -/
theorem counts_fileName {t : Tally} {texts : List String} (h : t.Counts texts) (name : String) :
    (t.bumpGiven (Text.lower name)).Counts
      (texts ++ if !name.isEmpty then [Text.lower name] else []) := by
  split
  · exact h.bumpGiven _
  · next hempty =>
    have hname : name = "" := by simpa using hempty
    rw [hname, Text.lower_eq_empty_iff.2 rfl, List.append_nil]
    exact h

/-- **One more file is summarized with the others.** -/
theorem Summarizes.add (h : c.Summarizes records) {r : IndexedFile} (hr : r.Tidy) :
    (c.add r).Summarizes (records ++ [r]) where
  files := by
    rw [List.length_append, ← h.files]
    rfl
  bytes := by
    rw [List.map_append, List.foldl_append, ← h.bytes]
    rfl
  status := by
    rw [List.map_append]
    exact h.status.bumpGiven r.status
  origin := by
    rw [List.map_append]
    exact h.origin.bumpGiven r.origin
  accession := by
    rw [List.map_append]
    exact h.accession.bumpGiven r.accessionId
  isPartOf := by
    rw [flatMap_concat]
    exact h.isPartOf.bumpAll hr.isPartOf
  applicationVersion := by
    rw [List.map_append]
    exact h.applicationVersion.bumpGiven r.applicationVersion
  registryKey := by
    rw [List.map_append]
    exact h.registryKey.bumpGiven r.preservation.format.registryKey
  formatName := by
    rw [List.map_append]
    exact h.formatName.bumpGiven r.preservation.format.name
  format := by
    rw [List.map_append, List.map_singleton, map_filter_concat]
    exact counts_format h.format r.preservation.format
  eventType := by
    rw [flatMap_concat, List.map_append]
    exact h.eventType.tallyEvents Event.type
  eventOutcome := by
    rw [flatMap_concat, List.map_append]
    exact h.eventOutcome.tallyEvents Event.outcome
  eventTool := by
    rw [flatMap_concat, List.map_append]
    exact h.eventTool.tallyEvents Event.tool
  extension := by
    rw [List.map_append, List.map_singleton, ← hr.extension]
    exact h.extension.bump hr.extension_ne_empty
  fileName := by
    rw [List.map_append, List.map_singleton, map_filter_concat]
    dsimp only [Census.add, Tables.add]
    exact counts_fileName h.fileName r.fileName
  sipNames := by
    rw [List.map_append]
    exact h.sipNames.insertGiven r.sipName
  fileUuids := by
    rw [List.map_append]
    exact h.fileUuids.insertGiven r.fileUuid
  normalizedIds := by
    rw [flatMap_concat]
    exact h.normalizedIds.insertAll hr.normalizedIds
  formats := by
    rw [List.map_append, List.map_singleton, map_filter_concat]
    exact setOf_formats h.formats r.preservation.format
  indexed := by
    rw [filterMap_concat]
    exact h.indexed.addOption r.indexed
  created := by
    rw [filterMap_concat]
    exact h.created.addOption r.preservation.created
  events := by
    rw [flatMap_concat]
    exact h.events.addAll
  delays := by
    rw [filterMap_concat, ← h.delays]
    rfl

/-! ## All files -/

/-- **Any run of files is summarized.** -/
theorem Summarizes.addAll : ∀ {new : List IndexedFile} {c : Census} {records : List IndexedFile},
    c.Summarizes records → (∀ r ∈ new, r.Tidy) →
      (new.foldl Census.add c).Summarizes (records ++ new)
  | [], _, _, h, _ => by rwa [List.append_nil]
  | r :: rest, _, records, h, hnew => by
    obtain ⟨hr, hrest⟩ := List.forall_mem_cons.1 hnew
    have hall := (h.add hr).addAll hrest
    rwa [List.append_assoc] at hall

/-- The records of documents are tidy. -/
theorem tidy_of_mapM {sources : List Json} (h : sources.mapM IndexedFile.ofSource = .ok records) :
    ∀ r ∈ records, r.Tidy := fun r hr =>
  let ⟨_, _, hsource⟩ := Outcome.exists_of_mem_mapM h r hr
  IndexedFile.tidy_of_ofSource hsource

/-- A census with documents is the census with their records. -/
theorem addSources_eq_ok_iff : ∀ {sources : List Json} {c c' : Census},
    c.addSources sources = .ok c' ↔
      ∃ records, sources.mapM IndexedFile.ofSource = .ok records ∧ c' = records.foldl add c
  | [], c, c' => by
    simp [addSources, Outcome.pure_eq_ok, eq_comm]
  | source :: rest, c, c' => by
    rw [addSources, List.foldlM_cons, List.mapM_cons, Outcome.bind_eq_ok_iff]
    constructor
    · rintro ⟨c₁, hone, hrest⟩
      obtain ⟨r, hr, rfl⟩ := addSource_eq_ok_iff.1 hone
      obtain ⟨records, hrecords, rfl⟩ := addSources_eq_ok_iff.1 hrest
      exact ⟨r :: records, by rw [hr, Outcome.ok_bind, hrecords]; rfl, rfl⟩
    · rintro ⟨all, hall, rfl⟩
      obtain ⟨r, hr, hall⟩ := Outcome.bind_eq_ok_iff.1 hall
      obtain ⟨records, hrecords, hall⟩ := Outcome.bind_eq_ok_iff.1 hall
      cases hall
      exact ⟨c.add r, addSource_eq_ok_iff.2 ⟨r, hr, rfl⟩,
        addSources_eq_ok_iff.2 ⟨records, hrecords, rfl⟩⟩

/-- **A census of documents one by one is a census of all of them**: the documents that it takes in
have records, and it says of these what they say together. -/
theorem exists_summarizes {aipUuid : String} {sources : List Json} {c : Census}
    (h : (start aipUuid).addSources sources = .ok c) :
    ∃ records, sources.mapM IndexedFile.ofSource = .ok records ∧ c.Summarizes records := by
  obtain ⟨records, hrecords, rfl⟩ := addSources_eq_ok_iff.1 h
  exact ⟨records, hrecords, (summarizes_start aipUuid).addAll (tidy_of_mapM hrecords)⟩

/-! ## Two documents -/

/-- A document with a path, a status, a size and one event. -/
def sheet (path status : String) (size : Nat) (event : String) : Json :=
  .obj [("filePath", .str path), ("status", .str status), ("size", .int size),
    ("METS", .obj [("amdSec", .obj [("mets:amdSec_dict", .obj [("mets:digiprovMD_dict",
      .obj [("mets:mdWrap_dict", .obj [("mets:xmlData_dict", .obj [("premis:event_dict",
        .obj [("premis:eventType", .str event)])])])])])])])]

/-- Two files of one name. -/
def sheets : List Json :=
  [sheet "objects/Map.TIF" "stored" 3 "ingestion", sheet "scans/map.tif" "" 5 "ingestion"]

/-- Two documents are taken in, and what they state is counted. -/
theorem exists_summarizes_sheets : ∃ c records, (start "aip").addSources sheets = .ok c ∧
    sheets.mapM IndexedFile.ofSource = .ok records ∧ c.Summarizes records ∧
    c.tables.eventType = [("ingestion", 2)] ∧ c.tables.fileName = [("map.tif", 2)] := by
  have htables : ((start "aip").addSources sheets).toOption.map (fun c =>
      (c.tables.eventType, c.tables.fileName)) =
        some ([("ingestion", 2)], [("map.tif", 2)]) := by decide +kernel
  cases hc : (start "aip").addSources sheets with
  | error d =>
    rw [hc] at htables
    cases htables
  | ok c =>
    obtain ⟨records, hrecords, hsummary⟩ := exists_summarizes hc
    rw [hc] at htables
    have hboth := Prod.mk.inj (Option.some.inj htables)
    exact ⟨c, records, rfl, hrecords, hsummary, hboth⟩

end Census

end ArchiveCensus
