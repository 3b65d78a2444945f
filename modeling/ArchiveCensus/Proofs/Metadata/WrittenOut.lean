import ArchiveCensus.Proofs.Metadata.Repeated
import ArchiveCensus.Proofs.Number.Numeral

/-!
# Proofs/Metadata/WrittenOut — a whole number and its text are the same metadata

An index document states sizes and times as numbers or as texts.  A whole number may be written out
in decimal, with padding around it, and measures the same: both are rounded to the nearest double,
and what is beyond the doubles is no measure in either form.  So the record of the document is the
same too, since it takes sizes and times by their measure alone.

* `Json.WritesOut` — a whole number, and a text of it.
* `Json.measure_writesOut` — both have the same measure.
* `IndexedFile.ofSource_writtenOut` — any run of numbers that are written out leaves the record as
  it is.
-/

namespace ArchiveCensus

namespace Json

/-! ## Numbers and texts -/

/-- A whole number is written out: its decimal text, with any padding around it, takes its place. -/
inductive WritesOut : Json → Json → Prop where
  | text (z : Int) (front back : List Char) (hfront : ∀ c ∈ front, Text.isPadding c = true)
      (hback : ∀ c ∈ back, Text.isPadding c = true) :
      WritesOut (.int z) (.str (String.ofList (front ++ Number.wholeText z ++ back)))

section

variable {j j' d d' : Json} {key : String}

/-- **A whole number that is written out measures the same**, also beyond the doubles. -/
theorem measure_writesOut (h : WritesOut j j') : j'.measure = j.measure := by
  obtain ⟨z, front, back, hfront, hback⟩ := h
  rw [measure, String.toList_ofList,
    Text.strip_append hfront (fun _ => Number.not_padding_of_mem_wholeText) hback,
    Numeral.decimalNumber?_wholeText]
  rfl

/-- Where a number is written out under a key, what stands under any key measures the same. -/
theorem measure_get_of_changesAt (h : ChangesAt WritesOut [key] d d') (key' : String) :
    (d'.get key').measure = (d.get key').measure := by
  rcases eq_or_ne key' key with rfl | hne
  · exact measure_writesOut h.get.step
  · rw [h.get_of_ne hne]

end

end Json

open Json

/-! ## Exports -/

namespace Preservation

/-- Where the size stands in an export. -/
def sizePath : List String :=
  adminPath ++ objectPath ++ ["premis:objectCharacteristics_dict", "premis:size"]

/-- **The size of an export may be written out.** -/
theorem ofMets_of_size {mets mets' : Json} (h : ChangesAt WritesOut sizePath mets mets') :
    ofMets mets' = ofMets mets := by
  have hobject : ChangesAt WritesOut ["premis:objectCharacteristics_dict", "premis:size"]
      (object mets) (object mets') := h.follow
  have hcharacteristics := hobject.get
  have hsize := measure_get_of_changesAt hcharacteristics "premis:size"
  -- nothing else in the export is read through the size
  have hprovenance : provenance mets' = provenance mets := by
    rw [sizePath, List.append_assoc, objectPath, List.cons_append] at h
    rw [provenance, provenance, h.follow.get_of_ne (by decide)]
  have hids : normalizedIdsOf mets' = normalizedIdsOf mets := by
    rw [normalizedIdsOf, normalizedIdsOf, hobject.get_of_ne (by decide)]
  have hformat : formatOf ((object mets').get "premis:objectCharacteristics_dict") =
      formatOf ((object mets).get "premis:objectCharacteristics_dict") := by
    rw [formatOf, formatOf, hcharacteristics.get_of_ne (by decide)]
  have hcreated : ((object mets').get "premis:objectCharacteristics_dict").follow
        ["premis:creatingApplication_dict", "premis:dateCreatedByApplication"] =
      ((object mets).get "premis:objectCharacteristics_dict").follow
        ["premis:creatingApplication_dict", "premis:dateCreatedByApplication"] := by
    rw [follow_cons, hcharacteristics.get_of_ne (by decide), ← follow_cons]
  simp only [ofMets, wholeMeasure, hprovenance, hids, hformat, hcreated, hsize]

end Preservation

/-! ## Records -/

namespace IndexedFile

/-- The keys of the sizes and the time that an index document states itself. -/
def measuredKeys : List String := ["size", "FileSize", "indexedAt"]

/-- A document in which one number is written out: the size in its export, or what stands under one
of its own keys. -/
inductive WrittenOut (source source' : Json) : Prop where
  | ofExport (h : ChangesAt WritesOut ("METS" :: Preservation.sizePath) source source')
  | ofKey {key : String} (hkey : key ∈ measuredKeys) (h : ChangesAt WritesOut [key] source source')

/-- A record takes what stands under the measured keys by its measure. -/
theorem ofSource_of_measures {source source' : Json}
    (hmets : Preservation.ofMets (source'.get "METS") = Preservation.ofMets (source.get "METS"))
    (hmeasures : ∀ key ∈ measuredKeys, (source'.get key).measure = (source.get key).measure)
    (hothers : ∀ key, key ≠ "METS" → key ∉ measuredKeys → source'.get key = source.get key) :
    ofSource source' = ofSource source := by
  simp (disch := decide) only [ofSource, wholeMeasure, hmets, hmeasures, hothers]

theorem ne_of_mem_measuredKeys {key : String} (h : key ∈ measuredKeys) : key ≠ "METS" := by
  rintro rfl
  exact absurd h (by decide)

/-- The record is the same after one number is written out, -/
theorem WrittenOut.ofSource_eq {source source' : Json} (h : WrittenOut source source') :
    ofSource source' = ofSource source := by
  obtain h | @⟨key, hkey, h⟩ := h
  · refine ofSource_of_measures (Preservation.ofMets_of_size h.get) (fun key hkey => ?_)
      fun key hne _ => h.get_of_ne hne
    rw [h.get_of_ne (ne_of_mem_measuredKeys hkey)]
  · refine ofSource_of_measures ?_ (fun key' _ => measure_get_of_changesAt h key')
      fun key' _ hnot => h.get_of_ne (by rintro rfl; exact hnot hkey)
    rw [h.get_of_ne (ne_of_mem_measuredKeys hkey).symm]

/-- **and after any run of them.** -/
theorem ofSource_writtenOut {source source' : Json}
    (h : Relation.ReflTransGen WrittenOut source source') : ofSource source' = ofSource source := by
  induction h with
  | refl => rfl
  | tail _ hlast ih => rw [hlast.ofSource_eq, ih]

/-! ## A size beyond the doubles -/

namespace Oversized

/-- A document with a size in its export, a size of its own, another one, and a time. -/
def stored (exportSize size fileSize indexedAt : Json) : Json :=
  .obj [("size", size), ("FileSize", fileSize), ("indexedAt", indexedAt),
    ("METS", .obj [("amdSec", .obj [("mets:amdSec_dict", .obj [
      ("mets:techMD_dict", .obj [("mets:mdWrap_dict", .obj [("mets:xmlData_dict", .obj [
        ("premis:object_dict", .obj [("premis:objectCharacteristics_dict",
          .obj [("premis:size", exportSize)])])])])])])])])]

/-- A number that no double is near. -/
def beyond : Int := .ofNat (Nat.pow 10 309)

/-- The text of a number, with padding around it. -/
def padded (z : Int) : Json := .str (String.ofList ('\t' :: Number.wholeText z ++ ['\u3000', ' ']))

theorem writesOut_padded (z : Int) : WritesOut (.int z) (padded z) :=
  .text z ['\t'] ['\u3000', ' '] (List.all_eq_true.1 rfl) (List.all_eq_true.1 rfl)

/-- The document with its numbers, -/
def numbers : Json := stored (.int beyond) (.int (-beyond)) (.int 7) (.int 1700000000)

/-- and with their texts. -/
def texts : Json := stored (padded beyond) (padded (-beyond)) (padded 7) (padded 1700000000)

/-- Each number may be written out. -/
theorem writtenOut_texts : Relation.ReflTransGen WrittenOut numbers texts := by
  have hexport : WrittenOut numbers
      (stored (padded beyond) (.int (-beyond)) (.int 7) (.int 1700000000)) :=
    .ofExport (.later (by decide) (.later (by decide) (.later (by decide) (.first (.first (.first
      (.first (.first (.first (.first (.first (.first (.here (writesOut_padded _))
        _) _) _) _) _) _) _) _) _))))
  have hsize : WrittenOut _
      (stored (padded beyond) (padded (-beyond)) (.int 7) (.int 1700000000)) :=
    .ofKey (by decide) (.first (.here (writesOut_padded _)) _)
  have hfileSize : WrittenOut _
      (stored (padded beyond) (padded (-beyond)) (padded 7) (.int 1700000000)) :=
    .ofKey (by decide) (.later (by decide) (.first (.here (writesOut_padded _)) _))
  have htime : WrittenOut _ texts :=
    .ofKey (by decide) (.later (by decide) (.later (by decide)
      (.first (.here (writesOut_padded _)) _)))
  exact .tail (.tail (.tail (.single hexport) hsize) hfileSize) htime

theorem size_numbers : (ofSource numbers).toOption.map IndexedFile.size = some 7 := by
  decide +kernel

end Oversized

/-- Two sizes beyond the doubles are none, as numbers and as texts: the third one counts. -/
theorem ofSource_writtenOut_oversized :
    Relation.ReflTransGen WrittenOut Oversized.numbers Oversized.texts ∧
    (ofSource Oversized.texts).toOption.map IndexedFile.size = some 7 ∧
    ofSource Oversized.texts = ofSource Oversized.numbers := by
  have hsame := ofSource_writtenOut Oversized.writtenOut_texts
  refine ⟨Oversized.writtenOut_texts, ?_, hsame⟩
  rw [hsame]
  exact Oversized.size_numbers

end IndexedFile

end ArchiveCensus
