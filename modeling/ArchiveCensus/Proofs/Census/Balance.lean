import ArchiveCensus.Proofs.Census.Formats

/-!
# Proofs/Census/Balance — the parts of a report go together

A census keeps its counters, tallies, sets and largest files apart, and a report shows some of each.
They still go together: every file is counted on one side or the other, what is counted of some
files is no more than there are files, and the first rows of a tally are no more than the tally.

* `Census.Balanced` — what a file preserves between the counters, the sets, the delays and the
  largest files; `Census.Balanced.add` is the step.
* `Report.Balanced` — how the parts of a report go together.
* `Census.balanced_of_report` — the parts of every report do.
-/

namespace ArchiveCensus

/-! ## Counters -/

/-- The counters of some files go together. -/
structure Counters.Balanced (c : Counters) : Prop where
  /-- Others were derived from a file or not. -/
  normalized_add : c.normalized + c.notNormalized = c.files
  normalized_le : c.normalized ≤ c.references
  unknownFormats_le : c.unknownFormats ≤ c.files
  lackingIdentifiers_le : c.lackingIdentifiers ≤ c.files
  mismatches_le : c.mismatches ≤ c.files

/-- One more file leaves the counters balanced. -/
theorem Counters.Balanced.add {c : Counters} (h : c.Balanced) (r : IndexedFile) :
    (c.add r).Balanced := by
  have hone : ∀ b : Bool, b.toNat ≤ 1 := Bool.toNat_le
  exact
    { normalized_add := by
        have hsides : (!r.preservation.normalizedIds.isEmpty).toNat +
            r.preservation.normalizedIds.isEmpty.toNat = 1 := by
          cases r.preservation.normalizedIds.isEmpty <;> rfl
        dsimp only [Counters.add]
        have hfiles := h.normalized_add
        omega
      normalized_le := by
        have hsome : (!r.preservation.normalizedIds.isEmpty).toNat ≤
            r.preservation.normalizedIds.length := by
          cases r.preservation.normalizedIds with
          | nil => exact Nat.le_refl 0
          | cons id rest => exact Nat.succ_le_succ (Nat.zero_le _)
        exact Nat.add_le_add h.normalized_le hsome
      unknownFormats_le := Nat.add_le_add h.unknownFormats_le (hone _)
      lackingIdentifiers_le := Nat.add_le_add h.lackingIdentifiers_le (hone _)
      mismatches_le := Nat.add_le_add h.mismatches_le (hone _) }

/-! ## Sets -/

namespace Distinct

theorem length_insertGiven_le (set : List String) (s : String) :
    (insertGiven set s).length ≤ set.length + 1 := by
  rw [insertGiven]
  split
  · exact Nat.le_succ _
  · exact length_insert_le set s

theorem length_insertAll_le : ∀ (new set : List String),
    (new.foldl (fun set s => set.insert s) set).length ≤ set.length + new.length
  | [], set => Nat.le_refl _
  | s :: rest, set => by
    have hrest := length_insertAll_le rest (set.insert s)
    have hone := length_insert_le set s
    rw [List.foldl_cons, List.length_cons]
    omega

end Distinct

/-! ## The largest files -/

namespace Sample

/-- How many bytes some samples have. -/
def totalSize (samples : List Sample) : Nat := (samples.map Sample.size).foldl (· + ·) 0

theorem totalSize_take_le (n : Nat) (samples : List Sample) :
    totalSize (samples.take n) ≤ totalSize samples := by
  rw [totalSize, totalSize, ← List.sum_eq_foldl, ← List.sum_eq_foldl]
  exact ((List.take_sublist n samples).map Sample.size).sum_le_sum fun _ _ => Nat.zero_le _

theorem totalSize_insert (s : Sample) (samples : List Sample) :
    totalSize (Ranking.insert before s samples) = s.size + totalSize samples := by
  rw [totalSize, totalSize, ← List.sum_eq_foldl, ← List.sum_eq_foldl,
    ((Ranking.insert_perm before s samples).map Sample.size).sum_eq, List.map_cons, List.sum_cons]

/-- A file adds no more to the largest files than its size. -/
theorem totalSize_keep_le (largest : List Sample) (r : IndexedFile) :
    totalSize (keep largest r) ≤ totalSize largest + r.size := by
  rw [keep]
  split
  · exact Nat.le_add_right _ _
  · refine Nat.le_trans (totalSize_take_le _ _) ?_
    rw [totalSize_insert, Nat.add_comm]
    exact Nat.le_refl _

/-- What is kept was kept before, or is the sample of a file with a size. -/
theorem mem_keep {largest : List Sample} {r : IndexedFile} {s : Sample}
    (h : s ∈ keep largest r) : s ∈ largest ∨ 0 < s.size := by
  rw [keep] at h
  split at h
  · exact .inl h
  · next hsize =>
    have hmem := (Ranking.insert_perm before (ofRecord r) largest).mem_iff.1
      (List.mem_of_mem_take h)
    obtain rfl | hold := List.mem_cons.1 hmem
    · exact .inr (Nat.pos_of_ne_zero hsize)
    · exact .inl hold

theorem length_keep_le {largest : List Sample} (h : largest.length ≤ 10) (r : IndexedFile) :
    (keep largest r).length ≤ 10 := by
  rw [keep]
  split
  · exact h
  · exact Ranking.length_push_le capacity before largest (ofRecord r)

end Sample

/-! ## The census -/

namespace Census

/-- The parts of a census go together. -/
structure Balanced (c : Census) : Prop where
  counters : c.counters.Balanced
  normalizedIds_le : c.distinct.normalizedIds.length ≤ c.counters.references
  fileUuids_le : c.distinct.fileUuids.length ≤ c.counters.files
  /-- A file without a date of creation has no delay. -/
  lackingCreated_add_le : c.counters.lackingCreated + c.times.delays.length ≤ c.counters.files
  length_largest : c.largest.length ≤ 10
  largest_pos : ∀ s ∈ c.largest, 0 < s.size
  largest_le : Sample.totalSize c.largest ≤ c.counters.bytes

theorem balanced_start (aipUuid : String) : (start aipUuid).Balanced where
  counters := ⟨rfl, Nat.le_refl 0, Nat.le_refl 0, Nat.le_refl 0, Nat.le_refl 0⟩
  normalizedIds_le := Nat.le_refl 0
  fileUuids_le := Nat.le_refl 0
  lackingCreated_add_le := Nat.le_refl 0
  length_largest := Nat.zero_le _
  largest_pos _ hs := nomatch hs
  largest_le := Nat.le_refl 0

/-- A file has no delay, or a date of creation. -/
theorem isNone_add_delay?_le (r : IndexedFile) :
    r.preservation.created.isNone.toNat + (Times.delay? r).toList.length ≤ 1 := by
  rw [Times.delay?]
  cases r.preservation.created with
  | none => exact Nat.le_refl 1
  | some created =>
    rw [Option.isNone_some, Bool.toNat_false, Nat.zero_add]
    exact Option.length_toList_le

/-- **One more file leaves a census balanced.** -/
theorem Balanced.add {c : Census} (h : c.Balanced) (r : IndexedFile) : (c.add r).Balanced where
  counters := h.counters.add r
  normalizedIds_le := Nat.le_trans (Distinct.length_insertAll_le _ _)
    (Nat.add_le_add_right h.normalizedIds_le _)
  fileUuids_le := Nat.le_trans (Distinct.length_insertGiven_le _ _)
    (Nat.add_le_add_right h.fileUuids_le 1)
  lackingCreated_add_le := by
    -- the file counts for one of the two at most
    have hone := isNone_add_delay?_le r
    have hold := h.lackingCreated_add_le
    dsimp only [Census.add, Counters.add, Times.add]
    rw [List.length_append]
    omega
  length_largest := Sample.length_keep_le h.length_largest r
  largest_pos s hs := (Sample.mem_keep hs).elim (h.largest_pos s) id
  largest_le := Nat.le_trans (Sample.totalSize_keep_le _ _) (Nat.add_le_add_right h.largest_le _)

/-- So documents lead to a balanced census. -/
theorem balanced_addSources {aipUuid : String} {sources : List Json} {c : Census}
    (h : (start aipUuid).addSources sources = .ok c) : c.Balanced :=
  addSources_preserves (fun _ r hc => hc.add r) (balanced_start aipUuid) h

end Census

/-! ## The report -/

/-- The parts of a report go together, for a package of so many files with so many delays. -/
structure Report.Balanced (r : Report) (files delays : Nat) : Prop where
  files : r.counters.files = files
  counters : r.counters.Balanced
  /-- Every file has an extension. -/
  extensions : Tally.total (r.allExtensions.map Prod.snd) = r.counters.files
  uniqueNormalizedIds_le : r.uniqueNormalizedIds ≤ r.counters.references
  uniqueFileUuids_le : r.uniqueFileUuids ≤ r.counters.files
  uniqueFormats_le : r.uniqueFormats ≤ r.counters.files
  lackingCreated_add_le : r.counters.lackingCreated + delays ≤ r.counters.files
  statuses_le : Tally.total (r.statuses.map Ranking.Row.count) ≤ r.counters.files
  origins_le : Tally.total (r.origins.map Ranking.Row.count) ≤ r.counters.files
  accessions_le : Tally.total (r.accessions.map Ranking.Row.count) ≤ r.counters.files
  applicationVersions_le :
    Tally.total (r.applicationVersions.map Ranking.Row.count) ≤ r.counters.files
  registryKeys_le : Tally.total (r.registryKeys.map Ranking.Row.count) ≤ r.counters.files
  formatNames_le : Tally.total (r.formatNames.map Ranking.Row.count) ≤ r.counters.files
  formats_le : Tally.total (r.formats.map Ranking.FormatRow.count) ≤ r.counters.files
  /-- There is a row for each format, up to the limit, -/
  length_formats : r.formats.length = min 50 r.uniqueFormats
  /-- and the rows are in order. -/
  formats_before : r.formats.Pairwise Ranking.FormatRow.Before
  length_largest : r.largest.length ≤ 10
  largest_pos : ∀ s ∈ r.largest, 0 < s.size
  largest_le : Sample.totalSize r.largest ≤ r.counters.bytes

namespace Census

variable {c : Census} {records : List IndexedFile}

/-- The first rows of a tally that counts one text of each file add up to no more than there are
files. -/
theorem Summarizes.total_rows_le (h : c.Summarizes records) {limit : Int} {t : Tally}
    {rows : List Ranking.Row} (hrows : rows = Ranking.leading limit t) {text : IndexedFile → String}
    (ht : t.Counts (records.map text)) :
    Tally.total (rows.map Ranking.Row.count) ≤ c.counters.files := by
  have htotal := ht.total_leading_le limit
  rwa [List.length_map, ← h.files, ← hrows] at htotal

/-- The extensions of a census add up to its files, since no extension is empty. -/
theorem Summarizes.total_extension (h : c.Summarizes records) :
    Tally.total (c.tables.extension.map Prod.snd) = c.counters.files := by
  have hgiven : ∀ s ∈ records.map (FileName.extension ·.path), decide (s ≠ "") = true := by
    intro s hs
    obtain ⟨r, -, rfl⟩ := List.mem_map.1 hs
    exact decide_eq_true (FileName.extension_ne_empty r.path)
  rw [h.extension.total_eq, List.countP_eq_length.2 hgiven, List.length_map, h.files]

/-- The rows of formats add up to no more than there are files. -/
theorem Summarizes.total_formats_le (h : c.Summarizes records) {limit : Int}
    {rows all : List Ranking.FormatRow} (hrows : rows = Ranking.limited limit all)
    (hentries : (all.map Ranking.FormatRow.entry).Perm c.tables.format) :
    Tally.total (rows.map Ranking.FormatRow.count) ≤ c.counters.files := by
  have hcounts : (all.map Ranking.FormatRow.count).Perm (c.tables.format.map Prod.snd) := by
    have hperm := hentries.map Prod.snd
    rwa [List.map_map] at hperm
  have hstated : (Format.statedBy records).length ≤ records.length :=
    Nat.le_trans (List.length_filter_le _ _) (Nat.le_of_eq (List.length_map _))
  calc Tally.total (rows.map Ranking.FormatRow.count)
      ≤ Tally.total (all.map Ranking.FormatRow.count) := by
        refine Tally.total_le_of_sublist (hrows ▸ (Ranking.limited_sublist limit all).map _) ?_
        exact fun n hn => h.format.nonneg n (hcounts.mem_iff.1 hn)
    _ = Tally.total (c.tables.format.map Prod.snd) := Tally.total_eq_of_perm hcounts
    _ ≤ ((Format.statedBy records).map Format.signature).length := h.format.total_le
    _ ≤ c.counters.files := by
        rw [List.length_map, h.files]
        exact Int.ofNat_le.2 hstated

/-- There are as many rows of formats as different ones, up to the limit. -/
theorem Summarizes.length_formats (h : c.Summarizes records) {rows all : List Ranking.FormatRow}
    (hrows : rows = Ranking.limited Report.formatLimit all)
    (hentries : (all.map Ranking.FormatRow.entry).Perm c.tables.format) :
    rows.length = min 50 c.distinct.formats.length := by
  rw [hrows, Ranking.length_limited (by decide), ← h.length_tables_format, ← hentries.length_eq,
    List.length_map]
  rfl

/-- **The parts of a report go together**: its counters, its sets, the first rows of its tallies and
the largest files. -/
theorem balanced_of_report {aipUuid : String} {sources : List Json} {r : Report}
    (h : (start aipUuid).addSources sources = .ok c) (hr : c.report = .ok r) :
    r.Balanced sources.length c.times.delays.length := by
  have hbalanced := balanced_addSources h
  have hshows := shows_of_report hr
  obtain ⟨records, hrecords, hc⟩ := addSources_eq_ok_iff.1 h
  have hsummary : c.Summarizes records :=
    hc ▸ (summarizes_start aipUuid).addAll (tidy_of_mapM hrecords)
  obtain ⟨all, hlimited, hbefore, hentries, -⟩ := hsummary.exists_ranked_formats hshows.formats
  have hcounters := hshows.counters
  exact
    { files := by
        rw [hcounters, files_addSources h]
        exact Nat.zero_add _
      counters := hcounters ▸ hbalanced.counters
      extensions := by rw [hshows.allExtensions, hcounters, hsummary.total_extension]
      uniqueNormalizedIds_le := by
        rw [hshows.uniqueNormalizedIds, hcounters]
        exact hbalanced.normalizedIds_le
      uniqueFileUuids_le := by
        rw [hshows.uniqueFileUuids, hcounters]
        exact hbalanced.fileUuids_le
      uniqueFormats_le := by
        rw [hshows.uniqueFormats, hcounters]
        exact (sound_addSources h).formats
      lackingCreated_add_le := hcounters ▸ hbalanced.lackingCreated_add_le
      statuses_le := hcounters ▸ hsummary.total_rows_le hshows.statuses hsummary.status
      origins_le := hcounters ▸ hsummary.total_rows_le hshows.origins hsummary.origin
      accessions_le := hcounters ▸ hsummary.total_rows_le hshows.accessions hsummary.accession
      applicationVersions_le :=
        hcounters ▸ hsummary.total_rows_le hshows.applicationVersions hsummary.applicationVersion
      registryKeys_le := hcounters ▸ hsummary.total_rows_le hshows.registryKeys hsummary.registryKey
      formatNames_le := hcounters ▸ hsummary.total_rows_le hshows.formatNames hsummary.formatName
      formats_le := hcounters ▸ hsummary.total_formats_le hlimited hentries
      length_formats := by
        rw [hshows.uniqueFormats]
        exact hsummary.length_formats hlimited hentries
      formats_before := hlimited ▸ hbefore.sublist (Ranking.limited_sublist _ all)
      length_largest := hshows.largest ▸ hbalanced.length_largest
      largest_pos := hshows.largest ▸ hbalanced.largest_pos
      largest_le := by
        rw [hshows.largest, hcounters]
        exact hbalanced.largest_le }

/-! ## A file with everything -/

/-- A document of a file with a size, a format, a derived file and two dates. -/
def scanned : Json :=
  .obj [("filePath", .str "objects/map.tif"), ("indexedAt", .int 1700000000),
    ("METS", .obj [("amdSec", .obj [("mets:amdSec_dict", .obj [("mets:techMD_dict",
      .obj [("mets:mdWrap_dict", .obj [("mets:xmlData_dict", .obj [("premis:object_dict", .obj [
        ("premis:objectCharacteristics_dict", .obj [
          ("premis:size", .str "2048"),
          ("premis:format_dict", .obj [("premis:formatDesignation_dict",
            .obj [("premis:formatName", .str "Tagged Image File Format")])]),
          ("premis:creatingApplication_dict", .obj [
            ("premis:dateCreatedByApplication", .str "2023-11-14T00:00:00Z")])]),
        ("premis:relationship_dict", .obj [("premis:relatedObjectIdentifier_dict",
          .obj [("premis:relatedObjectIdentifierValue", .str "access-copy")])])])])])])])])])]

/-- The parts of a report on two documents go together: one has everything, and the other
nothing. -/
theorem balanced_of_report_scanned : ∃ c r, (start "aip").addSources [scanned, .obj []] = .ok c ∧
    c.report = .ok r ∧ r.Balanced 2 1 ∧ r.counters.normalized = 1 ∧ r.uniqueFormats = 1 ∧
    Sample.totalSize r.largest = 2048 := by
  have hfigures : ((start "aip").addSources [scanned, .obj []] >>= fun c => c.report.map fun r =>
      (c.times.delays.length, r.counters.normalized, r.uniqueFormats,
        Sample.totalSize r.largest)).toOption = some (1, 1, 1, 2048) := by decide +kernel
  obtain ⟨c, r, hc, hr, hknown⟩ := exists_report_of hfigures
  obtain ⟨hdelays, hknown⟩ := Prod.mk.inj hknown
  obtain ⟨hnormalized, hknown⟩ := Prod.mk.inj hknown
  obtain ⟨hformats, hsize⟩ := Prod.mk.inj hknown
  have hbalanced := balanced_of_report hc hr
  rw [hdelays] at hbalanced
  exact ⟨c, r, hc, hr, hbalanced, hnormalized, hformats, hsize⟩

end Census

end ArchiveCensus
