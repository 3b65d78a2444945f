import ArchiveCensus.Census.Report
import ArchiveCensus.Proofs.Census.Figure

/-!
# Proofs/Census/Report — which packages can be reported

A census that documents lead to is sound: it has no more formats than files, and no delay is longer
than the calendar.  So the figures made of these are always found.  The others have a last average
or a last rank, and a package beyond it has no report at all.

* `Census.addSources_preserves` — what every file preserves, documents preserve.
* `Census.sound_addSources` — documents lead to a sound census.
* `Census.Shows`, `Census.shows_of_report` — what a report shows of its census.
* `Census.exists_report_iff_reportable` — which census has a report, and what becomes of the others.
* `Census.not_report_hugeFile` — one document that states a huge size leaves nothing to report.
-/

namespace ArchiveCensus

/-! ## Delays -/

/-- A number of seconds that is longer than the calendar. -/
def longestDelay : Nat := Nat.pow 2 39

theorem calendar_lt_longestDelay : 3652059 * microsPerDay < longestDelay * microsPerSecond := by
  decide

theorem longestDelay_le_lastAverage : longestDelay ≤ Figure.lastAverage := by
  unfold Figure.lastAverage
  generalize 964 = e
  exact Nat.le_trans (by decide) (Nat.le_mul_of_pos_right _ (Nat.two_pow_pos e))

/-- How many units the longest delay has. -/
theorem longestDelay_mul : longestDelay * Binary64.unitsPerOne = 2 ^ (52 + 1061) := by
  rw [longestDelay, Nat.pow_eq, Figure.two_pow_mul_unitsPerOne]

theorem Binary64.wholePart_bounds {u most : Nat} (h : u ≤ most * unitsPerOne) :
    0 ≤ (finite false u).wholePart ∧ (finite false u).wholePart ≤ most := by
  have hwhole : u / unitsPerOne ≤ most :=
    Nat.div_le_of_le_mul (by rw [Nat.mul_comm]; exact h)
  exact ⟨Int.natCast_nonneg _, Int.ofNat_le.2 hwhole⟩

/-- The seconds between two instants are no longer than the calendar. -/
theorem Instant.secondsAfter_bounds {earlier later : Instant} (h : earlier.before later = true) :
    0 ≤ later.secondsAfter earlier ∧ later.secondsAfter earlier ≤ longestDelay := by
  have hbefore : earlier.micros < later.micros := by simpa [before] using h
  obtain ⟨n, hn⟩ : ∃ n : Nat, (later.micros : Int) - earlier.micros = n :=
    ⟨later.micros - earlier.micros, by omega⟩
  have hless : n < longestDelay * microsPerSecond := by
    have hrange := later.inRange
    have hcalendar := calendar_lt_longestDelay
    omega
  have hunits : n * Binary64.unitsPerOne < 2 ^ (52 + 1061) * microsPerSecond := by
    calc n * Binary64.unitsPerOne
        < longestDelay * microsPerSecond * Binary64.unitsPerOne :=
          Nat.mul_lt_mul_of_pos_right hless Binary64.unitsPerOne_pos
      _ = 2 ^ (52 + 1061) * microsPerSecond := by rw [← longestDelay_mul, Nat.mul_right_comm]
  have hround := Binary64.roundUnits_le_pow (by decide) hunits
  rw [← longestDelay_mul] at hround
  rw [secondsAfter, hn, Figure.ofQuotient_natCast, Binary64.ofUnits]
  split
  · exact Binary64.wholePart_bounds hround
  · exact ⟨Int.le_refl 0, Int.natCast_nonneg _⟩

/-- A delay that is counted is no longer than the calendar. -/
theorem Times.delay?_bounds {r : IndexedFile} {d : Int} (h : Times.delay? r = some d) :
    0 ≤ d ∧ d ≤ longestDelay := by
  unfold delay? at h
  split at h
  · split at h
    · rename_i hbefore
      rw [← Option.some.inj h]
      exact Instant.secondsAfter_bounds hbefore
    · cases h
  · cases h

/-! ## What documents lead to -/

/-- A set grows by one text at most. -/
theorem Distinct.length_insert_le (set : List String) (s : String) :
    (set.insert s).length ≤ set.length + 1 := by
  rw [List.length_insert]
  split <;> omega

namespace Census

/-- What holds of every census that documents lead to. -/
structure Sound (c : Census) : Prop where
  /-- There are no more formats than files. -/
  formats : c.distinct.formats.length ≤ c.counters.files
  delays : ∀ d ∈ c.times.delays, 0 ≤ d ∧ d ≤ longestDelay
  /-- Without files there is nothing to share out. -/
  nothing : c.counters.files = 0 → c.counters.bytes = 0 ∧ c.counters.references = 0

theorem sound_start (aipUuid : String) : (start aipUuid).Sound :=
  { formats := Nat.le_refl 0
    delays := fun _ hd => nomatch hd
    nothing := fun _ => ⟨rfl, rfl⟩ }

/-- A file brings one format at most. -/
theorem length_formats_add_le (d : Distinct) (r : IndexedFile) :
    (d.add r).formats.length ≤ d.formats.length + 1 := by
  rw [Distinct.add]
  split
  · exact Distinct.length_insert_le _ _
  · exact Nat.le_succ _

/-- One more file leaves a census sound. -/
theorem Sound.add {c : Census} (h : c.Sound) (r : IndexedFile) : (c.add r).Sound where
  formats := Nat.le_trans (length_formats_add_le c.distinct r) (Nat.succ_le_succ h.formats)
  delays := fun d hd => by
    obtain hold | hnew := List.mem_append.1 hd
    · exact h.delays d hold
    · exact Times.delay?_bounds (Option.mem_toList.1 hnew)
  nothing := fun hnone => nomatch hnone

/-- What every file preserves, documents preserve. -/
theorem addSources_preserves {P : Census → Prop} (hadd : ∀ c r, P c → P (c.add r)) :
    ∀ {sources : List Json} {c c' : Census}, P c → c.addSources sources = .ok c' → P c'
  | [], _, _, hc, h => by
    cases h
    exact hc
  | source :: rest, c, c', hc, h => by
    rw [Census.addSources, List.foldlM_cons] at h
    obtain ⟨c₁, hone, hrest⟩ := Outcome.bind_eq_ok_iff.1 h
    obtain ⟨r, -, rfl⟩ := addSource_eq_ok_iff.1 hone
    exact addSources_preserves hadd (hadd c r hc) hrest

/-- **So documents lead to a sound census.** -/
theorem sound_addSources {aipUuid : String} {sources : List Json} {c : Census}
    (h : (start aipUuid).addSources sources = .ok c) : c.Sound :=
  addSources_preserves (fun _ r hc => hc.add r) (sound_start aipUuid) h

/-- Each document is one more file. -/
theorem files_addSources : ∀ {sources : List Json} {c c' : Census},
    c.addSources sources = .ok c' → c'.counters.files = c.counters.files + sources.length
  | [], c, c', h => by
    cases h
    rfl
  | source :: rest, c, c', h => by
    rw [addSources, List.foldlM_cons] at h
    obtain ⟨c₁, hone, hrest⟩ := Outcome.bind_eq_ok_iff.1 h
    obtain ⟨r, -, rfl⟩ := addSource_eq_ok_iff.1 hone
    have hfiles : (c.add r).counters.files = c.counters.files + 1 := rfl
    rw [files_addSources hrest, hfiles, List.length_cons, Nat.add_assoc, Nat.add_comm 1]

end Census

/-! ## The first formats -/

theorem Format.exists_ofSignature? {separator : List Char} (h : separator ≠ [])
    (signature : String) : ∃ f, Format.ofSignature? separator signature = some f := by
  rw [ofSignature?, if_neg (by simpa using h)]
  cases cut? separator signature.toList with
  | none => exact ⟨_, rfl⟩
  | some parts =>
    obtain ⟨key, rest⟩ := parts
    dsimp only
    cases cut? separator rest with
    | none => exact ⟨_, rfl⟩
    | some _ => exact ⟨_, rfl⟩

/-- Steps that all have a value have values one after another. -/
theorem Outcome.exists_mapM {ε α β : Type} {f : α → Except ε β} (h : ∀ a, ∃ b, f a = .ok b) :
    ∀ items : List α, ∃ values, items.mapM f = .ok values
  | [] => ⟨[], rfl⟩
  | a :: rest => by
    obtain ⟨b, hb⟩ := h a
    obtain ⟨values, hvalues⟩ := exists_mapM h rest
    exact ⟨b :: values, by rw [List.mapM_cons, hb, ok_bind, hvalues, ok_bind, pure_eq_ok]⟩

/-- and so does what is made of these. -/
theorem Outcome.exists_mapM_bind {ε α β γ : Type} {f : α → Except ε β} (h : ∀ a, ∃ b, f a = .ok b)
    (g : List β → γ) (items : List α) : ∃ c, (do return g (← items.mapM f)) = Except.ok c := by
  obtain ⟨values, hvalues⟩ := exists_mapM h items
  exact ⟨g values, by rw [hvalues, ok_bind, pure_eq_ok]⟩

/-- Every tally of formats has its first rows. -/
theorem Ranking.exists_leadingFormats (limit : Int) (separator : String)
    (h : separator.toList ≠ []) (counts : Tally) :
    ∃ rows, Ranking.leadingFormats limit separator counts = .ok rows := by
  refine Outcome.exists_mapM_bind (fun entry => ?_)
    (fun rows => limited limit (rows.mergeSort byFormatRow)) counts
  obtain ⟨f, hf⟩ := Format.exists_ofSignature? h entry.1
  exact ⟨⟨f, entry.2⟩, by simp only [hf]⟩

/-! ## Reports -/

namespace Census

/-- What a report shows of its census: each part of it, the figures as they are found. -/
structure Shows (c : Census) (r : Report) : Prop where
  aipUuid : r.aipUuid = c.aipUuid
  sipNames : r.sipNames = Text.sortTexts c.distinct.sipNames
  counters : r.counters = c.counters
  uniqueFileUuids : r.uniqueFileUuids = c.distinct.fileUuids.length
  uniqueNormalizedIds : r.uniqueNormalizedIds = c.distinct.normalizedIds.length
  uniqueFormats : r.uniqueFormats = c.distinct.formats.length
  normalizedAverage :
    Figure.ratio c.counters.references c.counters.files = .ok r.normalizedAverage
  bytesAverage : Figure.ratio c.counters.bytes c.counters.files = .ok r.bytesAverage
  formatDiversity :
    Figure.ratio c.distinct.formats.length c.counters.files = .ok r.formatDiversity
  indexed : r.indexed = c.times.indexed
  created : r.created = c.times.created
  events : r.events = c.times.events
  delayAverage : Figure.mean (c.times.delays.mergeSort (· ≤ ·)) = .ok r.delayAverage
  delayPercentile :
    Figure.percentile 0 (c.times.delays.mergeSort (· ≤ ·)) Report.delayPart = .ok r.delayPercentile
  statuses : r.statuses = Ranking.leading Report.generalLimit c.tables.status
  origins : r.origins = Ranking.leading Report.generalLimit c.tables.origin
  accessions : r.accessions = Ranking.leading Report.generalLimit c.tables.accession
  isPartOf : r.isPartOf = Ranking.leading Report.generalLimit c.tables.isPartOf
  applicationVersions :
    r.applicationVersions = Ranking.leading Report.generalLimit c.tables.applicationVersion
  registryKeys : r.registryKeys = Ranking.leading Report.formatLimit c.tables.registryKey
  formatNames : r.formatNames = Ranking.leading Report.formatLimit c.tables.formatName
  formats : Ranking.leadingFormats Report.formatLimit Format.separator.toString c.tables.format =
    .ok r.formats
  eventTypes : r.eventTypes = Ranking.leading Report.formatLimit c.tables.eventType
  eventOutcomes : r.eventOutcomes = Ranking.leading Report.formatLimit c.tables.eventOutcome
  eventTools : r.eventTools = Ranking.leading Report.formatLimit c.tables.eventTool
  extensions : r.extensions = Ranking.leading Report.extensionLimit c.tables.extension
  allExtensions : r.allExtensions = c.tables.extension
  sharedNames : r.sharedNames = (Report.sharedCounts c.tables.fileName).length
  sharingFiles : r.sharingFiles = (Report.sharedCounts c.tables.fileName).foldl (· + ·) 0
  largest : r.largest = c.largest

/-- **A report shows its census.** -/
theorem shows_of_report {c : Census} {r : Report} (h : c.report = .ok r) : c.Shows r := by
  simp only [report, Outcome.bind_eq_ok_iff] at h
  obtain ⟨_, hdelays, _, hrank, _, hreferences, _, hbytes, _, hdiversity, _, hformats, h⟩ := h
  cases h
  exact
    { aipUuid := rfl
      sipNames := rfl
      counters := rfl
      uniqueFileUuids := rfl
      uniqueNormalizedIds := rfl
      uniqueFormats := rfl
      normalizedAverage := hreferences
      bytesAverage := hbytes
      formatDiversity := hdiversity
      indexed := rfl
      created := rfl
      events := rfl
      delayAverage := hdelays
      delayPercentile := hrank
      statuses := rfl
      origins := rfl
      accessions := rfl
      isPartOf := rfl
      applicationVersions := rfl
      registryKeys := rfl
      formatNames := rfl
      formats := hformats
      eventTypes := rfl
      eventOutcomes := rfl
      eventTools := rfl
      extensions := rfl
      allExtensions := rfl
      sharedNames := rfl
      sharingFiles := rfl
      largest := rfl }

/-- A census whose figures are all before the end of the doubles. -/
structure Reportable (c : Census) : Prop where
  bytes : c.counters.bytes ≤ Figure.lastAverage * c.counters.files
  references : c.counters.references ≤ Figure.lastAverage * c.counters.files
  delays : (c.times.delays.length - 1) * 95 < Figure.overflowWhole

/-- What the report of any other census fails for: the first of its figures that is not. -/
def excess (c : Census) : Defect :=
  if Figure.overflowWhole ≤ (c.times.delays.length - 1) * 95 then .wholeTooLarge
  else if Figure.lastAverage * c.counters.files < c.counters.references then
    Figure.excess c.counters.references c.counters.files
  else Figure.excess c.counters.bytes c.counters.files

/-- A ratio is found up to the last average, and is a defect beyond it. -/
theorem ratio_outcome {n d : Nat} (hnone : d = 0 → n = 0) :
    (∃ x, Figure.ratio n d = .ok x) ∧ n ≤ Figure.lastAverage * d ∨
      Figure.ratio n d = .error (Figure.excess n d) ∧ ¬ n ≤ Figure.lastAverage * d := by
  by_cases h : n ≤ Figure.lastAverage * d
  · exact .inl ⟨Figure.ratio_of_le h, h⟩
  · have hpos : 0 < d := by
      refine Nat.pos_of_ne_zero fun hzero => h ?_
      rw [hnone hzero]
      exact Nat.zero_le _
    exact .inr ⟨Figure.ratio_of_lt hpos (Nat.not_le.1 h), h⟩

/-- A percentile of the delays is found up to the last rank, and is a defect beyond it. -/
theorem percentile_outcome (delays : List Int) :
    (∃ z, Figure.percentile 0 delays Report.delayPart = .ok z) ∧
        (delays.length - 1) * 95 < Figure.overflowWhole ∨
      Figure.percentile 0 delays Report.delayPart = .error .wholeTooLarge ∧
        ¬ (delays.length - 1) * 95 < Figure.overflowWhole := by
  have hmore : ¬ Number.whole (95 : Nat) ≤ 0 := by decide +kernel
  have hless : ¬ 100 ≤ Number.whole (95 : Nat) := by decide +kernel
  by_cases h : (delays.length - 1) * 95 < Figure.overflowWhole
  · exact .inl ⟨Figure.percentile_of_lt hmore hless h, h⟩
  · exact .inr ⟨Figure.percentile_of_le hmore hless (Nat.not_lt.1 h), h⟩

/-- **Only figures can fail**: a sound census has a report exactly if its figures are before the end
of the doubles, and else its report is the defect of the first that is not. -/
theorem Sound.report_outcome {c : Census} (h : c.Sound) :
    (∃ r, c.report = .ok r) ∧ c.Reportable ∨
      c.report = .error c.excess ∧ ¬ c.Reportable := by
  obtain ⟨mean, hmean⟩ : ∃ x, Figure.mean (c.times.delays.mergeSort (· ≤ ·)) = .ok x :=
    Figure.mean_of_forall longestDelay_le_lastAverage fun d hd =>
      h.delays d (List.mem_mergeSort.1 hd)
  obtain ⟨diversity, hdiversity⟩ := Figure.ratio_of_le (n := c.distinct.formats.length)
    (d := c.counters.files)
    (Nat.le_trans h.formats (Nat.le_mul_of_pos_left _ Figure.lastAverage_pos))
  obtain ⟨formats, hformats⟩ := Ranking.exists_leadingFormats Report.formatLimit
    Format.separator.toString (by decide) c.tables.format
  have hrank := percentile_outcome (c.times.delays.mergeSort (· ≤ ·))
  rw [List.length_mergeSort] at hrank
  have hreferences := ratio_outcome fun hnone => (h.nothing hnone).2
  have hbytes := ratio_outcome fun hnone => (h.nothing hnone).1
  -- the figures that can fail, in the order in which they are made
  obtain ⟨⟨rank, hrank⟩, hdelays⟩ | ⟨hrank, hnot⟩ := hrank
  · obtain ⟨⟨references, hreferences⟩, hrefs⟩ | ⟨hreferences, hnot⟩ := hreferences
    · obtain ⟨⟨bytes, hbytes⟩, hsize⟩ | ⟨hbytes, hnot⟩ := hbytes
      · refine .inl ⟨?_, hsize, hrefs, hdelays⟩
        simp only [report, hmean, hrank, hreferences, hbytes, hdiversity, hformats, Outcome.ok_bind]
        exact ⟨_, rfl⟩
      · refine .inr ⟨?_, fun hall => hnot hall.bytes⟩
        rw [excess, if_neg (Nat.not_le.2 hdelays), if_neg (Nat.not_lt.2 hrefs)]
        simp only [report, hmean, hrank, hreferences, hbytes, Outcome.ok_bind, Outcome.error_bind]
    · refine .inr ⟨?_, fun hall => hnot hall.references⟩
      rw [excess, if_neg (Nat.not_le.2 hdelays), if_pos (Nat.not_le.1 hnot)]
      simp only [report, hmean, hrank, hreferences, Outcome.ok_bind, Outcome.error_bind]
  · refine .inr ⟨?_, fun hall => hnot hall.delays⟩
    rw [excess, if_pos (Nat.not_lt.1 hnot)]
    simp only [report, hmean, hrank, Outcome.ok_bind, Outcome.error_bind]

/-- **Which packages can be reported**: a census that documents lead to has a report exactly if its
figures are before the end of the doubles.  Else it fails for the first that is not. -/
theorem exists_report_iff_reportable {aipUuid : String} {sources : List Json} {c : Census}
    (h : (start aipUuid).addSources sources = .ok c) :
    ((∃ r, c.report = .ok r) ↔ c.Reportable) ∧
      (¬ c.Reportable → c.report = .error c.excess) := by
  obtain ⟨⟨r, hreport⟩, hall⟩ | ⟨hreport, hnot⟩ := (sound_addSources h).report_outcome
  · exact ⟨⟨fun _ => hall, fun _ => ⟨r, hreport⟩⟩, fun hnot => absurd hall hnot⟩
  · refine ⟨⟨fun ⟨r, hr⟩ => ?_, fun hall => absurd hall hnot⟩, fun _ => hreport⟩
    rw [hreport] at hr
    cases hr

/-- The census and the report of some documents by what is known of them. -/
theorem exists_report_of {α : Type} {aipUuid : String} {sources : List Json}
    {known : Census → Report → α} {a : α}
    (h : ((start aipUuid).addSources sources >>= fun c => c.report.map (known c)).toOption =
      some a) :
    ∃ c r, (start aipUuid).addSources sources = .ok c ∧ c.report = .ok r ∧ known c r = a := by
  cases hc : (start aipUuid).addSources sources with
  | error d =>
    rw [hc] at h
    cases h
  | ok c =>
    rw [hc, Outcome.ok_bind] at h
    cases hr : c.report with
    | error d =>
      rw [hr] at h
      cases h
    | ok r =>
      rw [hr] at h
      exact ⟨c, r, rfl, hr, Option.some.inj h⟩

/-! ## Packages of one file -/

/-- A document that states nothing but a size. -/
def sized (size : Nat) : Json := .obj [("size", .int size)]

/-- How many files a package of one such document has, and how many bytes. -/
def sizedFigures (size : Nat) : Option (Nat × Nat × Nat × Nat) :=
  ((start "aip").addSources [sized size]).toOption.map fun c =>
    (c.counters.files, c.counters.bytes, c.counters.references, c.times.delays.length)

/-- The census of a package by what is known of it. -/
theorem exists_of_sizedFigures {size files bytes references delays : Nat}
    (h : sizedFigures size = some (files, bytes, references, delays)) :
    ∃ c, (start "aip").addSources [sized size] = .ok c ∧ c.counters.files = files ∧
      c.counters.bytes = bytes ∧ c.counters.references = references ∧
      c.times.delays.length = delays := by
  unfold sizedFigures at h
  cases hc : (start "aip").addSources [sized size] with
  | error d =>
    rw [hc] at h
    cases h
  | ok c =>
    rw [hc] at h
    cases h
    exact ⟨c, rfl, rfl, rfl, rfl, rfl⟩

/-- A package of one file with a size of a kilobyte can be reported. -/
theorem exists_report_sized : ∃ c r, (start "aip").addSources [sized 1000] = .ok c ∧
    c.Reportable ∧ c.report = .ok r := by
  have hfigures : sizedFigures 1000 = some (1, 1000, 0, 0) := by decide +kernel
  obtain ⟨c, hc, hfiles, hbytes, hreferences, hdelays⟩ := exists_of_sizedFigures hfigures
  have hall : c.Reportable := by
    refine ⟨?_, ?_, ?_⟩
    · rw [hfiles, hbytes]
      decide +kernel
    · rw [hfiles, hreferences]
      decide +kernel
    · rw [hdelays]
      decide +kernel
  obtain ⟨r, hr⟩ := (exists_report_iff_reportable hc).1.2 hall
  exact ⟨c, r, hc, hall, hr⟩

/-- A size whose average has no two places. -/
def hugeSize : Nat := Nat.pow 10 307

/-- **A size is enough to leave a package without a report**: the census takes the document in, and
its average is beyond the last one. -/
theorem not_report_hugeFile : ∃ c, (start "aip").addSources [sized hugeSize] = .ok c ∧
    c.report = .error .infiniteWhole := by
  obtain ⟨bytes, hfigures, hhuge, hless⟩ : ∃ bytes, sizedFigures hugeSize = some (1, bytes, 0, 0) ∧
      Figure.lastAverage * 1 < bytes ∧ bytes < Figure.overflowWhole * 1 :=
    ⟨(Binary64.ofInt hugeSize).wholePart.toNat, by decide +kernel, by decide +kernel,
      by decide +kernel⟩
  obtain ⟨c, hc, hfiles, hbytes, hreferences, hdelays⟩ := exists_of_sizedFigures hfigures
  -- the average is a double, and its hundredfold is none
  have hexcess : c.excess = .infiniteWhole := by
    rw [excess, hfiles, hbytes, hreferences, hdelays,
      if_neg (by simpa using Figure.overflowWhole_pos.ne'),
      if_neg (Nat.not_lt_zero _), Figure.excess, if_pos hless]
  obtain ⟨-, hall⟩ | ⟨hreport, -⟩ := (sound_addSources hc).report_outcome
  · have hsmall := hall.bytes
    rw [hbytes, hfiles] at hsmall
    exact absurd hsmall (Nat.not_le.2 hhuge)
  · exact ⟨c, hc, hexcess ▸ hreport⟩

end Census

end ArchiveCensus
