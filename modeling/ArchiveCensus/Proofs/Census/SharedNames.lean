import Mathlib.Algebra.Order.BigOperators.Group.Finset
import Mathlib.Data.Fintype.Fin
import Mathlib.Data.List.Duplicate
import ArchiveCensus.Proofs.Census.Batch
import ArchiveCensus.Proofs.Census.Report
import ArchiveCensus.Proofs.Census.Total

/-!
# Proofs/Census/SharedNames — which files share their names

A census counts file names and keeps none of the files.  At the end the counts above one are added
up: these are the places of a name that stands at more places than one, each of which can be told by
looking for another place of the name.

* `FileName.card_sharingPlaces` — the places that share their texts are those of the shared texts.
* `Tally.Counts.sharedCounts_eq` — the counts above one in a tally are those of the shared texts.
* `Census.sharing_of_report` — so a report says how many files share their names, and how many names
  they share.
-/

namespace ArchiveCensus

/-! ## Places -/

namespace FileName

variable {texts : List String} {s : String}

/-- The text at a place is not empty and stands at another place too. -/
def Shares (texts : List String) (i : Fin texts.length) : Prop :=
  texts.get i ≠ "" ∧ ∃ j, j ≠ i ∧ texts.get j = texts.get i

instance (texts : List String) : DecidablePred (Shares texts) :=
  fun _ => inferInstanceAs (Decidable (_ ∧ _))

/-- The places that share their texts with others. -/
def sharingPlaces (texts : List String) : Finset (Fin texts.length) :=
  Finset.univ.filter (Shares texts)

/-- The texts that are shared. -/
def sharedTexts (texts : List String) : Finset String := (sharingPlaces texts).image texts.get

/-- The places of a text are as many as it is counted. -/
theorem card_places (texts : List String) (s : String) :
    (Finset.univ.filter fun i => texts.get i = s).card = texts.count s :=
  Fin.card_filter_univ_eq_vector_get_eq_count s ⟨texts, rfl⟩

/-- A text stands at more places than one if it is counted more often than once. -/
theorem two_le_count_iff :
    2 ≤ texts.count s ↔ ∃ i j : Fin texts.length, i ≠ j ∧ texts.get i = s ∧ texts.get j = s := by
  rw [← List.duplicate_iff_two_le_count, List.duplicate_iff_exists_distinct_get]
  constructor
  · rintro ⟨i, j, hij, hi, hj⟩
    exact ⟨i, j, ne_of_lt hij, hi.symm, hj.symm⟩
  · rintro ⟨i, j, hij, hi, hj⟩
    rcases lt_or_gt_of_ne hij with hij | hij
    · exact ⟨i, j, hij, hi.symm, hj.symm⟩
    · exact ⟨j, i, hij, hj.symm, hi.symm⟩

/-- A place shares its text if the text is counted more often than once. -/
theorem shares_iff {i : Fin texts.length} :
    Shares texts i ↔ texts.get i ≠ "" ∧ 2 ≤ texts.count (texts.get i) := by
  refine and_congr_right fun _ => ?_
  rw [two_le_count_iff]
  constructor
  · rintro ⟨j, hji, hj⟩
    exact ⟨j, i, hji, hj, rfl⟩
  · rintro ⟨j, k, hjk, hj, hk⟩
    rcases eq_or_ne j i with rfl | hji
    · exact ⟨k, hjk.symm, hk⟩
    · exact ⟨j, hji, hj⟩

theorem mem_sharingPlaces {i : Fin texts.length} : i ∈ sharingPlaces texts ↔ Shares texts i := by
  rw [sharingPlaces, Finset.mem_filter, and_iff_right (Finset.mem_univ i)]

/-- The shared texts are those that are counted more often than once. -/
theorem mem_sharedTexts : s ∈ sharedTexts texts ↔ s ≠ "" ∧ 2 ≤ texts.count s := by
  rw [sharedTexts, Finset.mem_image]
  constructor
  · rintro ⟨i, hi, rfl⟩
    exact shares_iff.1 (mem_sharingPlaces.1 hi)
  · rintro ⟨hne, hcount⟩
    rcases two_le_count_iff.1 hcount with ⟨i, -, -, rfl, -⟩
    exact ⟨i, mem_sharingPlaces.2 (shares_iff.2 ⟨hne, hcount⟩), rfl⟩

/-- **The places that share their texts are those of the shared texts.** -/
theorem card_sharingPlaces (texts : List String) :
    (sharingPlaces texts).card = ∑ s ∈ sharedTexts texts, texts.count s := by
  rw [Finset.card_eq_sum_card_image texts.get]
  refine Finset.sum_congr rfl fun s hs => ?_
  -- every place of a shared text shares it
  have hplaces : (sharingPlaces texts).filter (fun i => texts.get i = s) =
      Finset.univ.filter fun i => texts.get i = s := by
    ext i
    rw [Finset.mem_filter, Finset.mem_filter, mem_sharingPlaces, shares_iff]
    refine and_congr_left fun hi => iff_of_true ?_ (Finset.mem_univ i)
    rw [hi]
    exact mem_sharedTexts.1 hs
  rw [hplaces, card_places]

/-- Each shared text has two of them or more. -/
theorem two_mul_card_sharedTexts_le (texts : List String) :
    2 * (sharedTexts texts).card ≤ (sharingPlaces texts).card := by
  rw [card_sharingPlaces, Nat.mul_comm]
  exact Finset.card_nsmul_le_sum _ _ 2 fun s hs => (mem_sharedTexts.1 hs).2

theorem card_sharingPlaces_le (texts : List String) :
    (sharingPlaces texts).card ≤ texts.length :=
  (Finset.card_filter_le _ _).trans_eq (Finset.card_fin _)

end FileName

/-! ## Tallies -/

namespace Tally.Counts

open FileName (sharedTexts sharingPlaces)

variable {t : Tally} {texts : List String}

/-- The texts in a tally that it counts more often than once. -/
theorem toFinset_shared (h : t.Counts texts) :
    (t.keys.filter fun key => 1 < texts.count key).toFinset = sharedTexts texts := by
  ext key
  rw [List.mem_toFinset, List.mem_filter, h.mem_keys, FileName.mem_sharedTexts, decide_eq_true_iff]
  constructor
  · rintro ⟨⟨hne, -⟩, hcount⟩
    exact ⟨hne, hcount⟩
  · rintro ⟨hne, hcount⟩
    exact ⟨⟨hne, List.count_pos_iff.1 (Nat.zero_lt_of_lt hcount)⟩, hcount⟩

/-- **The counts above one in a tally are those of the shared texts.** -/
theorem sharedCounts_eq (h : t.Counts texts) : Report.sharedCounts t =
    (t.keys.filter fun key => 1 < texts.count key).map fun key => (texts.count key : Int) := by
  rw [Report.sharedCounts, h.map_snd_eq, List.filter_map]
  congr 1
  refine List.filter_congr fun key _ => ?_
  simp

theorem length_sharedCounts (h : t.Counts texts) :
    (Report.sharedCounts t).length = (sharedTexts texts).card := by
  rw [h.sharedCounts_eq, List.length_map, ← h.toFinset_shared,
    List.toFinset_card_of_nodup (h.nodup_keys.filter _)]

theorem total_sharedCounts (h : t.Counts texts) :
    total (Report.sharedCounts t) = (sharingPlaces texts).card := by
  rw [h.sharedCounts_eq, total, ← List.sum_eq_foldl, FileName.card_sharingPlaces, Nat.cast_sum,
    ← h.toFinset_shared, List.sum_toFinset _ (h.nodup_keys.filter _)]

/-- The empty texts may be left out of what a tally counts, or not. -/
theorem of_filter (h : t.Counts (texts.filter (!·.isEmpty))) : t.Counts texts where
  count key hkey := by
    rw [h.count key hkey, List.count_filter (by simpa using hkey)]
  mem_keys key := by
    rw [h.mem_keys, List.mem_filter]
    refine and_congr_right fun hkey => and_iff_left ?_
    simpa using hkey
  nodup_keys := h.nodup_keys

end Tally.Counts

/-! ## Reports -/

namespace IndexedFile

/-- The file name of an index document, in lower case. -/
def lowerNameOf (source : Json) : String :=
  Text.lower (FileName.ofPath (source.get "filePath").label)

/-- The record of a document has its path. -/
theorem path_of_ofSource {source : Json} {r : IndexedFile} (h : ofSource source = .ok r) :
    r.path = (source.get "filePath").label := by
  rcases Outcome.bind_eq_ok_iff.1 h with ⟨_, -, h⟩
  rw [← Except.ok.inj h]

end IndexedFile

namespace Census

open FileName (sharedTexts sharingPlaces)

variable {c : Census} {records : List IndexedFile}

/-- A census counts the file names in lower case. -/
theorem Summarizes.counts_lower (h : c.Summarizes records) :
    c.tables.fileName.Counts (records.map fun f => Text.lower f.fileName) := by
  have hfilter : ((records.map IndexedFile.fileName).filter (!·.isEmpty)).map Text.lower =
      (records.map fun f => Text.lower f.fileName).filter (!·.isEmpty) := by
    rw [List.filter_map, List.filter_map, List.map_map]
    refine congrArg (List.map _) (List.filter_congr fun f _ => ?_)
    rw [Function.comp_apply, Function.comp_apply, Bool.not_inj_iff, Bool.eq_iff_iff,
      String.isEmpty_iff, String.isEmpty_iff, Text.lower_eq_empty_iff]
  exact Tally.Counts.of_filter (hfilter ▸ h.fileName)

/-- **A report says how many files share their names**: as many as have a name that is not empty and
that another file has too, in whatever case, and as many names as these files have; so there are two
files or more for each of the names. -/
theorem sharing_of_report {aipUuid : String} {sources : List Json} {r : Report}
    (hc : (start aipUuid).addSources sources = .ok c) (hr : c.report = .ok r) :
    r.sharingFiles = (sharingPlaces (sources.map IndexedFile.lowerNameOf)).card ∧
      r.sharedNames = (sharedTexts (sources.map IndexedFile.lowerNameOf)).card ∧
      2 * r.sharedNames ≤ r.sharingFiles ∧ r.sharingFiles ≤ r.counters.files := by
  have hshows := shows_of_report hr
  rcases exists_summarizes hc with ⟨records, hrecords, hsummary⟩
  have hnames : (records.map fun f => Text.lower f.fileName) =
      sources.map IndexedFile.lowerNameOf :=
    Outcome.map_eq_map_of_mapM (fun source _ f hf => by
      rw [IndexedFile.fileName, IndexedFile.path_of_ofSource hf, IndexedFile.lowerNameOf]) hrecords
  have hcounts := hsummary.counts_lower
  rw [hnames] at hcounts
  have hfiles : r.sharingFiles = (sharingPlaces (sources.map IndexedFile.lowerNameOf)).card :=
    hshows.sharingFiles.trans hcounts.total_sharedCounts
  have hshared : r.sharedNames = (sharedTexts (sources.map IndexedFile.lowerNameOf)).card :=
    hshows.sharedNames.trans hcounts.length_sharedCounts
  have hall : r.counters.files = sources.length := by
    rw [hshows.counters, files_addSources hc]
    exact Nat.zero_add _
  have hle : (sharingPlaces (sources.map IndexedFile.lowerNameOf)).card ≤ sources.length :=
    (FileName.card_sharingPlaces_le _).trans_eq (List.length_map _)
  refine ⟨hfiles, hshared, ?_, ?_⟩
  · rw [hfiles, hshared]
    exact_mod_cast FileName.two_mul_card_sharedTexts_le _
  · rw [hfiles, hall]
    exact_mod_cast hle

/-- Of five files three share a name, and no other name is shared: one has none, and the last has
another. -/
def shelf : List Json :=
  ["objects/Map.TIF", "scans\\map.tif", "MAP.tif ", "objects/", "map.tiff"].map fun path =>
    .obj [("filePath", .str path)]

theorem sharing_of_report_shelf : ∃ c r, (start "aip").addSources shelf = .ok c ∧
    c.report = .ok r ∧ r.sharingFiles = 3 ∧ r.sharedNames = 1 ∧ r.counters.files = 5 ∧
    (sharingPlaces (shelf.map IndexedFile.lowerNameOf)).card = 3 ∧
    (sharedTexts (shelf.map IndexedFile.lowerNameOf)).card = 1 := by
  have hfigures : ((start "aip").addSources shelf >>= fun c => c.report.map fun r =>
      (r.sharingFiles, r.sharedNames, r.counters.files)).toOption = some (3, 1, 5) := by
    decide +kernel
  rcases exists_report_of hfigures with ⟨c, r, hc, hr, hknown⟩
  rcases Prod.mk.inj hknown with ⟨hsharing, hknown⟩
  rcases Prod.mk.inj hknown with ⟨hshared, hfiles⟩
  rcases sharing_of_report hc hr with ⟨hplaces, htexts, -, -⟩
  refine ⟨c, r, hc, hr, hsharing, hshared, hfiles, ?_, ?_⟩
  · exact_mod_cast hplaces.symm.trans hsharing
  · exact htexts.symm.trans hshared

end Census

end ArchiveCensus
