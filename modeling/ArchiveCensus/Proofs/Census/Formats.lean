import Mathlib.Data.Finset.Card
import ArchiveCensus.Proofs.Census.Total
import ArchiveCensus.Proofs.Metadata.Signature

/-!
# Proofs/Census/Formats — which formats a report tells apart

A census knows a format by its signature, and a report reads the signatures back.  So a report tells
of the formats as they are read back: of those that are legible as they are, and of the others as of
the legible ones with their signatures.

* `Ranking.exists_ranked_formats` — the rows of a tally of signatures.
* `Ranking.Lists` — rows that list formats, each with the number of files that have it.
* `Census.exists_tellsFormats` — what a report tells of the formats of its files, and when it is what
  they state.
* `Census.not_lists_blurred` — two formats that a report takes for a third one.
-/

namespace ArchiveCensus

namespace Ranking

/-! ## Rows in order -/

/-- A row of formats comes before another: it counts more files; or as many, and its format comes
before the other by key, by name and by version. -/
def FormatRow.Before (a b : FormatRow) : Prop :=
  b.count < a.count ∨ a.count = b.count ∧
    (a.format.registryKey < b.format.registryKey ∨
      a.format.registryKey = b.format.registryKey ∧ (a.format.name < b.format.name ∨
        a.format.name = b.format.name ∧ a.format.version < b.format.version))

theorem lt_or_eq_of_upTo {a b : String} (h : Text.upTo a b = true) : a < b ∨ a = b := by
  by_cases hlt : a < b
  · exact .inl hlt
  · exact .inr (upTo_antisymm h (by simpa [Text.upTo] using hlt))

/-- A format that comes no later than another one comes before it, or is the same. -/
theorem lt_or_eq_of_byFormat {f g : Format} (h : byFormat f g = true) :
    (f.registryKey < g.registryKey ∨ f.registryKey = g.registryKey ∧ (f.name < g.name ∨
      f.name = g.name ∧ f.version < g.version)) ∨ f = g := by
  unfold byFormat at h
  split at h
  · next hkey => exact .inl (.inl ((lt_or_eq_of_upTo h).resolve_right hkey))
  · next hkey =>
    have hkey : f.registryKey = g.registryKey := Classical.not_not.1 hkey
    split at h
    · next hname => exact .inl (.inr ⟨hkey, .inl ((lt_or_eq_of_upTo h).resolve_right hname)⟩)
    · next hname =>
      have hname : f.name = g.name := Classical.not_not.1 hname
      obtain hversion | hversion := lt_or_eq_of_upTo h
      · exact .inl (.inr ⟨hkey, .inr ⟨hname, hversion⟩⟩)
      · refine .inr ?_
        cases f
        cases g
        simp_all

/-- Different rows that are in order are strictly in order. -/
theorem before_of_byFormatRow {a b : FormatRow} (h : byFormatRow a b = true) (hne : a ≠ b) :
    a.Before b := by
  unfold byFormatRow largestFirst at h
  split at h
  · next hcount => exact .inl hcount
  · next hmore =>
    split at h
    · cases h
    · next hless =>
      have hcount : a.count = b.count := by omega
      obtain hbefore | hformat := lt_or_eq_of_byFormat h
      · exact .inr ⟨hcount, hbefore⟩
      · refine absurd ?_ hne
        cases a
        cases b
        simp_all

/-! ## Rows of signatures -/

/-- What a tally of formats has for a row. -/
def FormatRow.entry (row : FormatRow) : String × Int := (row.format.signature, row.count)

/-- Legible formats make different rows of different entries. -/
theorem FormatRow.eq_of_entry_eq {a b : FormatRow} (ha : a.format.Legible) (hb : b.format.Legible)
    (h : a.entry = b.entry) : a = b := by
  obtain ⟨hsignature, hcount⟩ := Prod.mk.inj h
  have hformat := ha.eq_of_signature_eq hb hsignature
  cases a
  cases b
  simp_all

/-- The row of an entry of a tally of signatures. -/
def readRow (entry : String × Int) : Except Defect FormatRow :=
  match Format.ofSignature? Format.separator.toString.toList entry.1 with
  | some format => .ok ⟨format, entry.2⟩
  | none => .error .emptySeparator

theorem leadingFormats_eq (limit : Int) (t : Tally) :
    leadingFormats limit Format.separator.toString t =
      t.mapM readRow >>= fun rows => .ok (limited limit (rows.mergeSort byFormatRow)) := rfl

/-- It is of the legible format that has the signature. -/
theorem readRow_signature (f : Format) (n : Int) : readRow (f.signature, n) = .ok ⟨f.read, n⟩ := by
  have hmark : Format.separator.toString.toList = [Format.separator] := by decide
  rw [readRow, hmark, Format.ofSignature?_signature]

/-- **The rows of a tally of signatures**: one for each signature, of the legible format that has
it, in order. -/
theorem exists_ranked_formats {limit : Int} {t : Tally} {rows : List FormatRow}
    (hnodup : t.keys.Nodup) (hkeys : ∀ key ∈ t.keys, ∃ f : Format, f.signature = key)
    (h : leadingFormats limit Format.separator.toString t = .ok rows) :
    ∃ all, rows = limited limit all ∧ all.Pairwise FormatRow.Before ∧
      (all.map FormatRow.entry).Perm t ∧ ∀ row ∈ all, row.format.Legible := by
  rw [leadingFormats_eq] at h
  obtain ⟨read, hread, h⟩ := Outcome.bind_eq_ok_iff.1 h
  have hrow : ∀ entry ∈ t, ∀ row, readRow entry = .ok row →
      row.entry = entry ∧ row.format.Legible := by
    rintro ⟨key, n⟩ hentry row hok
    obtain ⟨f, rfl⟩ := hkeys key (List.mem_map.2 ⟨(key, n), hentry, rfl⟩)
    rw [readRow_signature] at hok
    rw [← Except.ok.inj hok, FormatRow.entry]
    dsimp only
    rw [Format.signature_read]
    exact ⟨rfl, f.legible_read⟩
  have hentries : read.map FormatRow.entry = t :=
    Outcome.map_eq_of_mapM (fun entry hentry row hok => (hrow entry hentry row hok).1) hread
  -- no two rows are the same, so rows that are in order are strictly so
  have hdiffer : read.Nodup := .of_map FormatRow.entry (hentries ▸ .of_map Prod.fst hnodup)
  have hsort := List.mergeSort_perm read byFormatRow
  refine ⟨read.mergeSort byFormatRow, (Except.ok.inj h).symm, ?_, ?_, fun row hmem => ?_⟩
  · exact pairwise_mergeSort_of_nodup orders_byFormatRow (fun _ _ => before_of_byFormatRow) hdiffer
  · rw [← hentries]
    exact hsort.map FormatRow.entry
  · obtain ⟨entry, hentry, hok⟩ := Outcome.exists_of_mem_mapM hread row (hsort.mem_iff.1 hmem)
    exact (hrow entry hentry row hok).2

/-! ## Rows that list formats -/

/-- Rows list some formats: each of them in one row, with its number among them. -/
structure Lists (rows : List FormatRow) (formats : List Format) : Prop where
  nodup : (rows.map FormatRow.format).Nodup
  mem_iff : ∀ row, row ∈ rows ↔ row.format ∈ formats ∧ row.count = formats.count row.format

/-- Two lists of formats that are listed by the same rows have the same formats. -/
theorem Lists.mem_formats_iff {rows : List FormatRow} {formats formats' : List Format}
    (h : Lists rows formats) (h' : Lists rows formats') (f : Format) :
    f ∈ formats ↔ f ∈ formats' := by
  constructor
  · intro hf
    exact ((h'.mem_iff ⟨f, formats.count f⟩).1 ((h.mem_iff ⟨f, formats.count f⟩).2 ⟨hf, rfl⟩)).1
  · intro hf
    exact ((h.mem_iff ⟨f, formats'.count f⟩).1 ((h'.mem_iff ⟨f, formats'.count f⟩).2 ⟨hf, rfl⟩)).1

/-- **The rows of a tally of the signatures of some formats list these**, as they are read back. -/
theorem lists_of_counts {t : Tally} {formats : List Format} {all : List FormatRow}
    (h : t.Counts (formats.map Format.signature)) (hentries : (all.map FormatRow.entry).Perm t)
    (hlegible : ∀ row ∈ all, row.format.Legible) : Lists all (formats.map Format.read) where
  nodup := by
    have hkeys : ((all.map FormatRow.format).map Format.signature).Nodup := by
      have hperm := hentries.map Prod.fst
      rw [List.map_map] at hperm ⊢
      exact hperm.nodup_iff.2 h.nodup_keys
    exact .of_map Format.signature hkeys
  mem_iff row := by
    by_cases hrow : row.format.Legible
    · have hmem : row ∈ all ↔ row.entry ∈ t := by
        rw [← hentries.mem_iff, List.mem_map]
        constructor
        · exact fun hmem => ⟨row, hmem, rfl⟩
        · rintro ⟨row', hmem, hentry⟩
          rwa [← FormatRow.eq_of_entry_eq (hlegible row' hmem) hrow hentry]
      rw [hmem, FormatRow.entry, h.mem_iff, and_iff_right row.format.signature_ne_empty,
        hrow.count_signature, hrow.signature_mem_iff]
    · refine iff_of_false (fun hmem => hrow (hlegible row hmem)) fun ⟨hmem, _⟩ => hrow ?_
      obtain ⟨f, -, hf⟩ := List.mem_map.1 hmem
      exact hf ▸ f.legible_read

/-- Rows that list formats as they are read back list them as they are exactly where all of them are
legible. -/
theorem Lists.iff_legible {rows : List FormatRow} {formats : List Format}
    (h : Lists rows (formats.map Format.read)) :
    Lists rows formats ↔ ∀ f ∈ formats, f.Legible := by
  constructor
  · intro hrows f hf
    obtain ⟨g, -, rfl⟩ := List.mem_map.1 ((hrows.mem_formats_iff h f).1 hf)
    exact g.legible_read
  · intro hlegible
    have hsame : formats.map Format.read = formats :=
      (List.map_congr_left fun f hf => Format.read_eq_self_iff.2 (hlegible f hf)).trans
        (List.map_id _)
    rwa [hsame] at h

end Ranking

/-! ## How many formats -/

/-- A set has as many texts as there are different ones. -/
theorem Distinct.SetOf.length_eq {set texts : List String} (h : SetOf set texts)
    (hne : ∀ s ∈ texts, s ≠ "") : set.length = texts.toFinset.card := by
  rw [← List.toFinset_card_of_nodup h.nodup]
  congr 1
  ext s
  rw [List.mem_toFinset, List.mem_toFinset, h.mem]
  exact ⟨And.right, fun hs => ⟨hne s hs, hs⟩⟩

namespace Format

/-- Some formats have as many signatures as there are formats exactly where none of them share
one. -/
theorem card_signatures_eq_iff (formats : List Format) :
    (formats.map signature).toFinset.card = formats.toFinset.card ↔
      ∀ f ∈ formats, ∀ g ∈ formats, f.signature = g.signature → f = g := by
  have himage : (formats.map signature).toFinset = formats.toFinset.image signature := by
    ext s
    simp
  rw [himage, Finset.card_image_iff]
  simp only [Set.InjOn, Finset.mem_coe, List.mem_toFinset]

/-- They have as many signatures as formats are read back from these. -/
theorem card_signatures (formats : List Format) :
    (formats.map signature).toFinset.card = (formats.map read).toFinset.card := by
  have hsame : (formats.map read).map signature = formats.map signature := by
    rw [List.map_map]
    exact List.map_congr_left fun f _ => f.signature_read
  rw [← hsame, card_signatures_eq_iff]
  intro f hf g hg h
  obtain ⟨f, -, rfl⟩ := List.mem_map.1 hf
  obtain ⟨g, -, rfl⟩ := List.mem_map.1 hg
  exact f.legible_read.eq_of_signature_eq g.legible_read h

/-- The formats of which files state anything. -/
def statedBy (records : List IndexedFile) : List Format :=
  (records.map (·.preservation.format)).filter isStated

end Format

/-! ## What a report tells -/

/-- What a report tells of the formats that its files state. -/
structure Report.TellsFormats (r : Report) (stated : List Format) : Prop where
  /-- It tells how many different ones are read back, -/
  number : r.uniqueFormats = (stated.map Format.read).toFinset.card
  /-- and lists these. -/
  lists : r.uniqueFormats ≤ 50 → Ranking.Lists r.formats (stated.map Format.read)
  /-- It tells how many there are exactly where none of them share a signature, -/
  number_iff : r.uniqueFormats = stated.toFinset.card ↔
    ∀ f ∈ stated, ∀ g ∈ stated, f.signature = g.signature → f = g
  /-- and lists them exactly where all of them are legible. -/
  lists_iff : r.uniqueFormats ≤ 50 →
    (Ranking.Lists r.formats stated ↔ ∀ f ∈ stated, f.Legible)

namespace Census

variable {c : Census} {records : List IndexedFile}

/-- The rows of a census are those of the signatures that its files state. -/
theorem Summarizes.exists_ranked_formats (h : c.Summarizes records) {limit : Int}
    {rows : List Ranking.FormatRow}
    (hrows : Ranking.leadingFormats limit Format.separator.toString c.tables.format = .ok rows) :
    ∃ all, rows = Ranking.limited limit all ∧ all.Pairwise Ranking.FormatRow.Before ∧
      (all.map Ranking.FormatRow.entry).Perm c.tables.format ∧
      Ranking.Lists all ((Format.statedBy records).map Format.read) := by
  have hkeys : ∀ key ∈ c.tables.format.keys, ∃ f : Format, f.signature = key := fun key hkey =>
    let ⟨f, _, hf⟩ := List.mem_map.1 ((h.format.mem_keys key).1 hkey).2
    ⟨f, hf⟩
  obtain ⟨all, hlimited, hbefore, hentries, hlegible⟩ :=
    Ranking.exists_ranked_formats h.format.nodup_keys hkeys hrows
  exact ⟨all, hlimited, hbefore, hentries, Ranking.lists_of_counts h.format hentries hlegible⟩

/-- There are as many of them as the census has different signatures. -/
theorem Summarizes.length_tables_format (h : c.Summarizes records) :
    c.tables.format.length = c.distinct.formats.length := by
  have hkeys : c.tables.format.keys.Perm c.distinct.formats := by
    refine (List.perm_ext_iff_of_nodup h.format.nodup_keys h.formats.nodup).2 fun key => ?_
    rw [h.format.mem_keys, h.formats.mem]
  rw [← hkeys.length_eq, Tally.keys, List.length_map]

/-- A census has as many different signatures as its files state. -/
theorem Summarizes.length_distinct_formats (h : c.Summarizes records) :
    c.distinct.formats.length = ((Format.statedBy records).map Format.signature).toFinset.card :=
  h.formats.length_eq fun s hs => by
    obtain ⟨f, -, rfl⟩ := List.mem_map.1 hs
    exact f.signature_ne_empty

/-- The report of a census lists the formats that are read back, if it has a row for each. -/
theorem Summarizes.lists_formats (h : c.Summarizes records) {r : Report} (hshows : c.Shows r)
    (hfew : r.uniqueFormats ≤ 50) :
    Ranking.Lists r.formats ((Format.statedBy records).map Format.read) := by
  obtain ⟨all, hlimited, -, hentries, hlists⟩ := h.exists_ranked_formats hshows.formats
  have hlength : all.length = r.uniqueFormats := by
    rw [← List.length_map Ranking.FormatRow.entry, hentries.length_eq, h.length_tables_format,
      hshows.uniqueFormats]
  have hall : (all.length : Int) ≤ Report.formatLimit := hlength ▸ Int.ofNat_le.2 hfew
  rwa [hlimited, Ranking.limited_eq_self hall]

/-- **What a report tells of formats**: how many different ones are read back from their signatures,
and which, each with the number of its files.  So it tells how many formats the files state exactly
where none of them share a signature, and lists them exactly where all of them are legible. -/
theorem exists_tellsFormats {aipUuid : String} {sources : List Json} {r : Report}
    (h : (start aipUuid).addSources sources = .ok c) (hr : c.report = .ok r) :
    ∃ records, sources.mapM IndexedFile.ofSource = .ok records ∧
      r.TellsFormats (Format.statedBy records) := by
  obtain ⟨records, hrecords, rfl⟩ := addSources_eq_ok_iff.1 h
  have hsummary := (summarizes_start aipUuid).addAll (tidy_of_mapM hrecords)
  have hshows := shows_of_report hr
  have hnumber := hshows.uniqueFormats.trans hsummary.length_distinct_formats
  rw [List.nil_append] at hsummary hnumber
  exact ⟨records, hrecords,
    { number := hnumber.trans (Format.card_signatures _)
      lists := hsummary.lists_formats hshows
      number_iff := by rw [hnumber, Format.card_signatures_eq_iff]
      lists_iff := fun hfew => (hsummary.lists_formats hshows hfew).iff_legible }⟩

/-! ## Documents with formats -/

/-- A document that states a format. -/
def stating (f : Format) : Json :=
  .obj [("METS", .obj [("amdSec", .obj [("mets:amdSec_dict", .obj [("mets:techMD_dict",
    .obj [("mets:mdWrap_dict", .obj [("mets:xmlData_dict", .obj [("premis:object_dict",
      .obj [("premis:objectCharacteristics_dict", .obj [("premis:format_dict", .obj [
        ("premis:formatDesignation_dict", .obj [("premis:formatName", .str f.name),
          ("premis:formatVersion", .str f.version)]),
        ("premis:formatRegistry_dict", .obj [("premis:formatRegistryKey", .str f.registryKey)])])])
          ])])])])])])])]

/-- Three files of two formats. -/
def pictures : List Json :=
  [stating ⟨"fmt/11", "PNG", "1.2"⟩, stating ⟨"fmt/4", "GIF", ""⟩, stating ⟨"fmt/11", "PNG", "1.2"⟩]

/-- Three documents are reported with the two formats that they state. -/
theorem exists_tellsFormats_pictures : ∃ c r records, (start "aip").addSources pictures = .ok c ∧
    c.report = .ok r ∧ pictures.mapM IndexedFile.ofSource = .ok records ∧
    r.TellsFormats (Format.statedBy records) ∧ r.uniqueFormats = 2 := by
  have hnumber : ((start "aip").addSources pictures >>= fun c =>
      c.report.map Report.uniqueFormats).toOption = some 2 := by decide +kernel
  obtain ⟨c, r, hc, hr, hknown⟩ := exists_report_of hnumber
  obtain ⟨records, hrecords, htells⟩ := exists_tellsFormats hc hr
  exact ⟨c, r, records, hc, hr, hrecords, htells, hknown⟩

/-- Two files of two formats with one signature. -/
def blurred : List Json :=
  [stating ⟨"a\x1fb", "c", ""⟩, stating ⟨"a", "b\x1fc", ""⟩]

/-- **Two formats are taken for a third one**: two files state different formats, and one format is
reported that neither of them states. -/
theorem not_lists_blurred :
    ((blurred.mapM IndexedFile.ofSource).map Format.statedBy).toOption =
      some [⟨"a\x1fb", "c", ""⟩, ⟨"a", "b\x1fc", ""⟩] ∧
    ((start "aip").addSources blurred >>= report).toOption.map (fun r =>
      (r.uniqueFormats, r.formats)) = some (1, [⟨⟨"a", "b", "c\x1f"⟩, 2⟩]) := by
  decide +kernel

end Census

end ArchiveCensus
