import ArchiveCensus.Proofs.Census.Batch
import ArchiveCensus.Proofs.Census.Leaders

/-!
# Proofs/Census/Shuffle — a report does not depend on the order of the documents

Most of a census depends on the order in which documents come: tallies and sets keep it, and so do
the delays.  A report sorts all that it takes from these, so it is the same for the documents in any
other order.  Only the list of all extensions keeps their order, and it is the same as a map.

* `Census.Like` — two censuses that are the same but for the order of what came.
* `Census.Summarizes.like` — censuses of the same files are like each other.
* `Census.Like.report_agree` — and what they report agrees.
* `Census.exists_report_agree` — so reports of the same documents agree.

The largest files are ranked by size and path.  Files that tie are ranked as they came, so the
report is the same if it shows them alike: `Census.ShowsTiesAlike`.
-/

namespace ArchiveCensus

/-! ## What came in another order -/

namespace Tally

/-- A tally in which each text stands once is made of its texts and their counts. -/
theorem eq_map_keys : ∀ {t : Tally}, t.keys.Nodup → t = t.keys.map fun key => (key, t.count key)
  | [], _ => rfl
  | (k, n) :: rest, h => by
    obtain ⟨hk, hrest⟩ := List.nodup_cons.1 h
    have hcount : ∀ key ∈ keys rest, (key, count key ((k, n) :: rest)) = (key, count key rest) := by
      intro key hkey
      rw [count, if_neg fun (heq : k = key) => hk (heq ▸ hkey)]
    rw [keys, List.map_cons, List.map_cons, ← keys, List.map_congr_left hcount,
      ← eq_map_keys hrest, count, if_pos rfl]

/-- What is found for a text is its count, where it was met. -/
theorem lookup_eq (key : String) : ∀ t : Tally,
    t.lookup key = if key ∈ t.keys then some (t.count key) else none
  | [] => rfl
  | (k, n) :: rest => by
    rw [List.lookup_cons, keys, List.map_cons, ← keys, count]
    by_cases hk : k = key
    · simp [hk]
    · have hbeq : (key == k) = false := by simpa using Ne.symm hk
      simp only [hbeq, lookup_eq key rest, List.mem_cons, Ne.symm hk, hk, false_or, if_false]

/-- What is found in a tally stands in it. -/
theorem lookup_eq_some_iff {t : Tally} (h : t.keys.Nodup) {key : String} {n : Int} :
    t.lookup key = some n ↔ (key, n) ∈ t := by
  rw [lookup_eq]
  conv => rhs; rw [eq_map_keys h]
  simp only [Option.ite_none_right_eq_some, Option.some.injEq, List.mem_map, Prod.mk.injEq]
  constructor
  · rintro ⟨hmem, hcount⟩
    exact ⟨key, hmem, rfl, hcount⟩
  · rintro ⟨_, hmem, rfl, hcount⟩
    exact ⟨hmem, hcount⟩

/-- A tally is the same map in any order. -/
theorem lookup_eq_of_perm {t t' : Tally} (h : t.keys.Nodup) (hperm : t.Perm t') (key : String) :
    t.lookup key = t'.lookup key := by
  have h' : t'.keys.Nodup := (hperm.map Prod.fst).nodup_iff.1 h
  refine Option.ext fun n => ?_
  rw [lookup_eq_some_iff h, lookup_eq_some_iff h', hperm.mem_iff]

/-- **Tallies of the same texts are the same but for the order.** -/
theorem Counts.perm {t t' : Tally} {texts texts' : List String} (h : t.Counts texts)
    (h' : t'.Counts texts') (hperm : texts.Perm texts') : t.Perm t' := by
  have hkeys : t.keys.Perm t'.keys := by
    refine (List.perm_ext_iff_of_nodup h.nodup_keys h'.nodup_keys).2 fun key => ?_
    rw [h.mem_keys, h'.mem_keys, hperm.mem_iff]
  have hcount : ∀ key ∈ t.keys, (key, t.count key) = (key, t'.count key) := fun key hkey => by
    have hne := ((h.mem_keys key).1 hkey).1
    rw [h.count key hne, h'.count key hne, hperm.count_eq]
  rw [eq_map_keys h.nodup_keys, eq_map_keys h'.nodup_keys, List.map_congr_left hcount]
  exact hkeys.map _

end Tally

/-- Sets of the same texts are the same but for the order. -/
theorem Distinct.SetOf.perm {set set' texts texts' : List String} (h : SetOf set texts)
    (h' : SetOf set' texts') (hperm : texts.Perm texts') : set.Perm set' := by
  refine (List.perm_ext_iff_of_nodup h.nodup h'.nodup).2 fun s => ?_
  rw [h.mem, h'.mem, hperm.mem_iff]

/-- Instants are the same if neither is before the other. -/
theorem Instant.eq_of_not_before {a b : Instant} (hab : a.before b = false)
    (hba : b.before a = false) : a = b := by
  have hmicros : a.micros = b.micros := by
    simp only [before, decide_eq_false_iff_not] at hab hba
    omega
  cases a
  cases b
  cases hmicros
  rfl

namespace Span

/-- The outermost of some dates is the same in any order. -/
theorem outermost_eq_of_perm (past : Instant → Instant → Bool)
    (hanti : ∀ a b, past a b = false → past b a = false → a = b) {dates dates' : List Instant}
    (hperm : dates.Perm dates') {o o' : Option Instant}
    (h : ∀ t, o = some t → t ∈ dates ∧ ∀ d ∈ dates, past d t = false)
    (h' : ∀ t, o' = some t → t ∈ dates' ∧ ∀ d ∈ dates', past d t = false)
    (hnone : o = none ↔ dates = []) (hnone' : o' = none ↔ dates' = []) : o = o' := by
  cases o with
  | none =>
    have hnil : dates' = [] := (hnone.1 rfl ▸ hperm).nil_eq.symm
    exact (hnone'.2 hnil).symm
  | some a =>
    obtain ⟨ha, hleast⟩ := h a rfl
    cases o' with
    | none =>
      rw [hnone'.1 rfl, List.perm_nil] at hperm
      rw [hperm] at ha
      cases ha
    | some b =>
      obtain ⟨hb, hleast'⟩ := h' b rfl
      rw [hanti a b (hleast' a (hperm.mem_iff.1 ha)) (hleast b (hperm.mem_iff.2 hb))]

/-- **Spans of the same dates are the same.** -/
theorem Bounds.eq_of_perm {s s' : Span} {dates dates' : List Instant} (h : s.Bounds dates)
    (h' : s'.Bounds dates') (hperm : dates.Perm dates') : s = s' := by
  have hfirst : s.first = s'.first := outermost_eq_of_perm Instant.before
    (fun _ _ => Instant.eq_of_not_before) hperm h.first h'.first h.first_eq_none h'.first_eq_none
  have hlast : s.last = s'.last := outermost_eq_of_perm (fun d t => t.before d)
    (fun _ _ hab hba => Instant.eq_of_not_before hba hab) hperm h.last h'.last h.last_eq_none
    h'.last_eq_none
  cases s
  cases s'
  cases hfirst
  cases hlast
  rfl

end Span

/-! ## The largest files -/

namespace Sample

theorem before_iff {a b : Sample} :
    before a b = true ↔ b.size < a.size ∨ a.size = b.size ∧ a.path < b.path := by
  simp only [before, Ranking.precedes, Bool.or_eq_true, Bool.and_eq_true, decide_eq_true_eq]
  refine or_congr_right (and_congr_left fun _ => ?_)
  omega

/-- Samples are ranked by size and path. -/
theorem ranks_before : Ranking.Ranks before where
  asymm a b hab := by
    rw [← Bool.not_eq_true, before_iff]
    rw [before_iff] at hab
    rintro (hsize | ⟨hsize, hpath⟩) <;> obtain hsize' | ⟨hsize', hpath'⟩ := hab
    · omega
    · omega
    · omega
    · exact String.lt_asymm hpath hpath'
  trans a b c hba hcb := by
    rw [← Bool.not_eq_true, before_iff, not_or, not_and, String.not_lt] at *
    refine ⟨by omega, fun hsize => ?_⟩
    exact String.le_trans (hba.2 (by omega)) (hcb.2 (by omega))

/-- Samples that tie have one size and one path. -/
theorem ties_iff {a b : Sample} (hab : before a b = false) (hba : before b a = false) :
    a.size = b.size ∧ a.path = b.path := by
  rw [← Bool.not_eq_true, before_iff, not_or, not_and, String.not_lt] at hab hba
  have hsize : a.size = b.size := by omega
  exact ⟨hsize, String.le_antisymm (hba.2 hsize.symm) (hab.2 hsize)⟩

/-- The samples of files that have a size. -/
def ofRecords (records : List IndexedFile) : List Sample :=
  (records.filter (0 < ·.size)).map ofRecord

/-- Keeping files is pushing the samples of those that have a size. -/
theorem foldl_keep_eq : ∀ (records : List IndexedFile) (largest : List Sample),
    records.foldl keep largest =
      (ofRecords records).foldl (Ranking.push capacity before) largest
  | [], _ => rfl
  | r :: records, largest => by
    rw [List.foldl_cons, foldl_keep_eq records, keep, ofRecords, ofRecords, List.filter_cons]
    by_cases hsize : r.size = 0
    · rw [if_pos hsize, if_neg (by simp [hsize])]
    · rw [if_neg hsize, if_pos (by simpa using Nat.pos_of_ne_zero hsize), List.map_cons,
        List.foldl_cons]

/-- The largest of some files lead their samples. -/
theorem exists_splits_keep (records : List IndexedFile) {largest rest items : List Sample}
    (h : Ranking.Splits before capacity.toNat largest rest items) :
    ∃ rest', Ranking.Splits before capacity.toNat (records.foldl keep largest) rest'
      (items ++ ofRecords records) := by
  rw [foldl_keep_eq]
  exact Ranking.Splits.exists_foldl_push ranks_before (ofRecords records) h

end Sample

/-! ## Censuses of the same files -/

namespace Counters

/-- Two files count alike in either order. -/
theorem add_right_comm (c : Counters) (r r' : IndexedFile) :
    (c.add r).add r' = (c.add r').add r := by
  rw [add, add, add, add, mk.injEq]
  exact ⟨rfl, Nat.add_right_comm .., Nat.add_right_comm .., Nat.add_right_comm ..,
    Nat.add_right_comm .., Nat.add_right_comm .., Nat.add_right_comm .., Nat.add_right_comm ..,
    Nat.add_right_comm ..⟩

end Counters

namespace Census

theorem aipUuid_addAll (records : List IndexedFile) (c : Census) :
    (records.foldl add c).aipUuid = c.aipUuid := by
  induction records generalizing c with
  | nil => rfl
  | cons r rest ih => exact ih (c.add r)

theorem counters_addAll (records : List IndexedFile) (c : Census) :
    (records.foldl add c).counters = records.foldl Counters.add c.counters :=
  (List.foldl_hom Census.counters fun _ _ => rfl).symm

theorem largest_addAll (records : List IndexedFile) (c : Census) :
    (records.foldl add c).largest = records.foldl Sample.keep c.largest :=
  (List.foldl_hom Census.largest fun _ _ => rfl).symm

/-- Two censuses are the same but for the order of what came. -/
structure Like (c c' : Census) : Prop where
  aipUuid : c.aipUuid = c'.aipUuid
  counters : c.counters = c'.counters
  status : c.tables.status.Perm c'.tables.status
  origin : c.tables.origin.Perm c'.tables.origin
  accession : c.tables.accession.Perm c'.tables.accession
  isPartOf : c.tables.isPartOf.Perm c'.tables.isPartOf
  applicationVersion : c.tables.applicationVersion.Perm c'.tables.applicationVersion
  registryKey : c.tables.registryKey.Perm c'.tables.registryKey
  formatName : c.tables.formatName.Perm c'.tables.formatName
  format : c.tables.format.Perm c'.tables.format
  eventType : c.tables.eventType.Perm c'.tables.eventType
  eventOutcome : c.tables.eventOutcome.Perm c'.tables.eventOutcome
  eventTool : c.tables.eventTool.Perm c'.tables.eventTool
  extension : c.tables.extension.Perm c'.tables.extension
  /-- Each extension stands once. -/
  nodup_extension : c.tables.extension.keys.Nodup
  fileName : c.tables.fileName.Perm c'.tables.fileName
  sipNames : c.distinct.sipNames.Perm c'.distinct.sipNames
  fileUuids : c.distinct.fileUuids.Perm c'.distinct.fileUuids
  normalizedIds : c.distinct.normalizedIds.Perm c'.distinct.normalizedIds
  formats : c.distinct.formats.Perm c'.distinct.formats
  indexed : c.times.indexed = c'.times.indexed
  created : c.times.created = c'.times.created
  events : c.times.events = c'.times.events
  delays : c.times.delays.Perm c'.times.delays
  largest : c.largest = c'.largest

/-- **Censuses of the same files are like each other**, if they have the same counters and the same
largest files. -/
theorem Summarizes.like {c c' : Census} {records records' : List IndexedFile}
    (h : c.Summarizes records) (h' : c'.Summarizes records') (hperm : records.Perm records')
    (haipUuid : c.aipUuid = c'.aipUuid) (hcounters : c.counters = c'.counters)
    (hlargest : c.largest = c'.largest) : c.Like c' :=
  have hformats := ((hperm.map (·.preservation.format)).filter Format.isStated).map
    Format.signature
  have hevents := hperm.flatMap_right (·.preservation.events)
  have hnames := ((hperm.map IndexedFile.fileName).filter (!·.isEmpty)).map Text.lower
  { aipUuid := haipUuid
    counters := hcounters
    status := h.status.perm h'.status (hperm.map _)
    origin := h.origin.perm h'.origin (hperm.map _)
    accession := h.accession.perm h'.accession (hperm.map _)
    isPartOf := h.isPartOf.perm h'.isPartOf (hperm.flatMap_right _)
    applicationVersion := h.applicationVersion.perm h'.applicationVersion (hperm.map _)
    registryKey := h.registryKey.perm h'.registryKey (hperm.map _)
    formatName := h.formatName.perm h'.formatName (hperm.map _)
    format := h.format.perm h'.format hformats
    eventType := h.eventType.perm h'.eventType (hevents.map _)
    eventOutcome := h.eventOutcome.perm h'.eventOutcome (hevents.map _)
    eventTool := h.eventTool.perm h'.eventTool (hevents.map _)
    extension := h.extension.perm h'.extension (hperm.map _)
    nodup_extension := h.extension.nodup_keys
    fileName := h.fileName.perm h'.fileName hnames
    sipNames := h.sipNames.perm h'.sipNames (hperm.map _)
    fileUuids := h.fileUuids.perm h'.fileUuids (hperm.map _)
    normalizedIds := h.normalizedIds.perm h'.normalizedIds (hperm.flatMap_right _)
    formats := h.formats.perm h'.formats hformats
    indexed := h.indexed.eq_of_perm h'.indexed (hperm.filterMap _)
    created := h.created.eq_of_perm h'.created (hperm.filterMap _)
    events := h.events.eq_of_perm h'.events (hperm.flatMap_right _)
    delays := by
      rw [h.delays, h'.delays]
      exact hperm.filterMap _
    largest := hlargest }

end Census

/-! ## Their reports -/

/-- Two reports agree if they are the same, and list the same extensions in some order. -/
structure Report.Agree (r r' : Report) : Prop where
  others : r' = { r with allExtensions := r'.allExtensions }
  extensions : ∀ key, r.allExtensions.lookup key = r'.allExtensions.lookup key

namespace Census

/-- Whole numbers are sorted alike in any order. -/
theorem sorted_eq_of_perm {items items' : List Int} (h : items.Perm items') :
    items.mergeSort (· ≤ ·) = items'.mergeSort (· ≤ ·) :=
  Ranking.mergeSort_eq_of_perm
    { trans := fun a b c hab hbc => by
        simp only [decide_eq_true_eq] at *
        omega
      total := fun a b => by
        simp only [Bool.or_eq_true, decide_eq_true_eq]
        omega }
    (fun a b hab hba => by
      simp only [decide_eq_true_eq] at hab hba
      omega) h

/-- Texts are sorted alike in any order. -/
theorem sortTexts_eq_of_perm {items items' : List String} (h : items.Perm items') :
    Text.sortTexts items = Text.sortTexts items' :=
  Ranking.mergeSort_eq_of_perm Ranking.orders_upTo (fun _ _ => Ranking.upTo_antisymm) h

/-- **Like censuses report the same**, but for the list of all extensions. -/
theorem Like.report_eq {c c' : Census} (h : c.Like c') :
    c'.report = c.report.map fun r => { r with allExtensions := c'.tables.extension } := by
  have hshared : (Report.sharedCounts c.tables.fileName).Perm
      (Report.sharedCounts c'.tables.fileName) := (h.fileName.map Prod.snd).filter _
  have hsum := hshared.foldl_eq' (f := fun x y : Int => x + y)
    (fun x _ y _ z => by omega) 0
  simp only [report, Outcome.map_bind]
  simp only [← h.aipUuid, ← h.counters, ← h.indexed, ← h.created, ← h.events, ← h.largest,
    ← sorted_eq_of_perm h.delays, ← sortTexts_eq_of_perm h.sipNames, ← h.fileUuids.length_eq,
    ← h.normalizedIds.length_eq, ← h.formats.length_eq, ← hshared.length_eq, ← hsum,
    ← Ranking.leading_eq_of_perm h.status, ← Ranking.leading_eq_of_perm h.origin,
    ← Ranking.leading_eq_of_perm h.accession, ← Ranking.leading_eq_of_perm h.isPartOf,
    ← Ranking.leading_eq_of_perm h.applicationVersion,
    ← Ranking.leading_eq_of_perm h.registryKey, ← Ranking.leading_eq_of_perm h.formatName,
    ← Ranking.leading_eq_of_perm h.eventType, ← Ranking.leading_eq_of_perm h.eventOutcome,
    ← Ranking.leading_eq_of_perm h.eventTool, ← Ranking.leading_eq_of_perm h.extension,
    ← Ranking.leadingFormats_eq_of_perm h.format Report.formatLimit
      (show Format.separator.toString.toList ≠ [] by decide)]
  rfl

/-- So their reports agree, or both have none for one reason. -/
theorem Like.report_agree {c c' : Census} (h : c.Like c') :
    (∃ d, c.report = .error d ∧ c'.report = .error d) ∨
      ∃ r r', c.report = .ok r ∧ c'.report = .ok r' ∧ r.Agree r' := by
  rw [h.report_eq]
  cases hr : c.report with
  | error d => exact .inl ⟨d, rfl, rfl⟩
  | ok r =>
    refine .inr ⟨r, _, rfl, rfl, rfl, fun key => ?_⟩
    rw [(shows_of_report hr).allExtensions]
    exact Tally.lookup_eq_of_perm h.nodup_extension h.extension key

end Census

/-! ## The documents in another order -/

/-- The report shows two files alike, but for their size and path. -/
structure IndexedFile.ShownAlike (r r' : IndexedFile) : Prop where
  fileUuid : r.fileUuid = r'.fileUuid
  registryKey : r.preservation.format.registryKey = r'.preservation.format.registryKey
  formatName : r.preservation.format.name = r'.preservation.format.name
  status : r.status = r'.status
  created : Instant.textOf r.preservation.created = Instant.textOf r'.preservation.created
  indexed : Instant.textOf r.indexed = Instant.textOf r'.indexed

instance (r r' : IndexedFile) : Decidable (r.ShownAlike r') :=
  decidable_of_iff
    (r.fileUuid = r'.fileUuid ∧
      r.preservation.format.registryKey = r'.preservation.format.registryKey ∧
      r.preservation.format.name = r'.preservation.format.name ∧ r.status = r'.status ∧
      Instant.textOf r.preservation.created = Instant.textOf r'.preservation.created ∧
      Instant.textOf r.indexed = Instant.textOf r'.indexed)
    ⟨fun ⟨huuid, hkey, hname, hstatus, hcreated, hindexed⟩ =>
        ⟨huuid, hkey, hname, hstatus, hcreated, hindexed⟩,
      fun h => ⟨h.fileUuid, h.registryKey, h.formatName, h.status, h.created, h.indexed⟩⟩

namespace Census

/-- Documents of files that tie among the largest ones, which are files of one positive size and one
path, are shown alike. -/
def ShowsTiesAlike (sources : List Json) : Prop :=
  ∀ source ∈ sources, ∀ source' ∈ sources, ∀ r r',
    IndexedFile.ofSource source = .ok r → IndexedFile.ofSource source' = .ok r' →
      0 < r.size → r.size = r'.size → r.path = r'.path → r.ShownAlike r'

/-- Samples that tie are the same. -/
theorem ShowsTiesAlike.eq_of_ties {sources : List Json} (h : ShowsTiesAlike sources)
    {records : List IndexedFile} (hrecords : sources.mapM IndexedFile.ofSource = .ok records) :
    ∀ a ∈ Sample.ofRecords records, ∀ b ∈ Sample.ofRecords records, a.before b = false →
      b.before a = false → a = b := by
  intro a ha b hb hab hba
  obtain ⟨r, hr, rfl⟩ := List.mem_map.1 ha
  obtain ⟨r', hr', rfl⟩ := List.mem_map.1 hb
  obtain ⟨hr, hpos⟩ := List.mem_filter.1 hr
  obtain ⟨source, hsource, hofSource⟩ := Outcome.exists_of_mem_mapM hrecords r hr
  obtain ⟨source', hsource', hofSource'⟩ :=
    Outcome.exists_of_mem_mapM hrecords r' (List.mem_filter.1 hr').1
  obtain ⟨hsize, hpath⟩ := Sample.ties_iff hab hba
  have halike := h source hsource source' hsource' r r' hofSource hofSource'
    (by simpa using hpos) hsize hpath
  have hextension : r.extension = r'.extension := by
    rw [(IndexedFile.tidy_of_ofSource hofSource).extension,
      (IndexedFile.tidy_of_ofSource hofSource').extension]
    exact congrArg FileName.extension hpath
  rw [Sample.ofRecord, Sample.ofRecord, Sample.mk.injEq]
  exact ⟨hpath, halike.fileUuid, hsize, hextension, halike.registryKey, halike.formatName,
    halike.status, halike.created, halike.indexed⟩

/-- **A report does not depend on the order of the documents**: a census that takes documents in
takes them in in any order, and its reports agree, or there is none for one reason. -/
theorem exists_report_agree {aipUuid : String} {sources sources' : List Json} {c : Census}
    (h : (start aipUuid).addSources sources = .ok c) (hperm : sources.Perm sources')
    (hties : ShowsTiesAlike sources) :
    ∃ c', (start aipUuid).addSources sources' = .ok c' ∧
      ((∃ d, c.report = .error d ∧ c'.report = .error d) ∨
        ∃ r r', c.report = .ok r ∧ c'.report = .ok r' ∧ r.Agree r') := by
  obtain ⟨records, hrecords, rfl⟩ := addSources_eq_ok_iff.1 h
  obtain ⟨records', hrecords', hsame⟩ := Outcome.exists_mapM_perm hperm hrecords
  refine ⟨records'.foldl add (start aipUuid), addSources_eq_ok_iff.2 ⟨_, hrecords', rfl⟩, ?_⟩
  have hsummary := (summarizes_start aipUuid).addAll (tidy_of_mapM hrecords)
  have hsummary' := (summarizes_start aipUuid).addAll (tidy_of_mapM hrecords')
  obtain ⟨rest, hsplit⟩ := Sample.exists_splits_keep records
    (Ranking.splits_nil Sample.before Sample.capacity.toNat)
  obtain ⟨rest', hsplit'⟩ := Sample.exists_splits_keep records'
    (Ranking.splits_nil Sample.before Sample.capacity.toNat)
  refine (hsummary.like hsummary' hsame ?_ ?_ ?_).report_agree
  · rw [aipUuid_addAll, aipUuid_addAll]
  · rw [counters_addAll, counters_addAll]
    exact hsame.foldl_eq' (fun r _ r' _ c => Counters.add_right_comm c r r') _
  · rw [largest_addAll, largest_addAll]
    exact hsplit.eq_of_perm Sample.ranks_before hsplit' ((hsame.filter _).map _)
      (hties.eq_of_ties hrecords)

/-! ## Three documents -/

/-- Two files of one name, and a third that ties with the first among the largest. -/
def reprints : List Json := sheet "objects/Map.TIF" "stored" 3 "migration" :: sheets

/-- Files that tie are shown alike. -/
theorem showsTiesAlike_reprints : ShowsTiesAlike reprints := by
  have hall : ∀ source ∈ reprints, ∀ source' ∈ reprints,
      ∀ r ∈ (IndexedFile.ofSource source).toOption,
      ∀ r' ∈ (IndexedFile.ofSource source').toOption,
        0 < r.size → r.size = r'.size → r.path = r'.path → r.ShownAlike r' := by
    decide +kernel
  exact fun source hsource source' hsource' r r' hr hr' => hall source hsource source' hsource'
    r (by rw [hr]; rfl) r' (by rw [hr']; rfl)

/-- Three documents are reported alike from first to last and from last to first. -/
theorem exists_report_agree_reprints : ∃ c c' r r',
    (start "aip").addSources reprints = .ok c ∧
    (start "aip").addSources reprints.reverse = .ok c' ∧
    c.report = .ok r ∧ c'.report = .ok r' ∧ r.Agree r' := by
  have hreport : ((start "aip").addSources reprints >>= report).isOk = true := by decide +kernel
  cases hc : (start "aip").addSources reprints with
  | error d =>
    rw [hc] at hreport
    cases hreport
  | ok c =>
    rw [hc, Outcome.ok_bind] at hreport
    obtain ⟨c', hc', ⟨d, hd, -⟩ | ⟨r, r', hr, hr', hagree⟩⟩ :=
      exists_report_agree hc reprints.reverse_perm.symm showsTiesAlike_reprints
    · rw [hd] at hreport
      cases hreport
    · exact ⟨c, c', r, r', rfl, hc', hr, hr', hagree⟩

end Census

end ArchiveCensus
