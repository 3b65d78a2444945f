import ArchiveCensus.Proofs.Census.Intake
import ArchiveCensus.Proofs.Text.Lowercase

/-!
# Proofs/Metadata/Tidy — what a record never leaves empty

Most values of a record are empty where a document states none.  Some never are: the extension of a
path is `unknown` where there is none, and the lists of a record have no empty texts.

* `FileName.extension_ne_empty` — every path has an extension.
* `IndexedFile.tidy_of_ofSource` — every record of a document is tidy.
-/

namespace ArchiveCensus

/-! ## Texts that stay -/

namespace Text

/-- The end of a stripped text is not stripped to nothing. -/
theorem strip_ne_nil_of_suffix {p : Char → Bool} {cs suffix : List Char} (hne : suffix ≠ [])
    (h : suffix <:+ strip p cs) : strip p suffix ≠ [] := by
  intro hnil
  obtain ⟨front, hfront⟩ := h
  have hlast : (strip p cs).getLast? = some (suffix.getLast hne) := by
    rw [← hfront, List.getLast?_append_of_ne_nil _ hne, List.getLast?_eq_some_getLast hne]
  have hkept := not_of_getLast?_strip hlast
  rw [strip_eq_nil_iff.1 hnil _ (List.getLast_mem hne)] at hkept
  cases hkept

end Text

/-- **Every path has an extension.** -/
theorem FileName.extension_ne_empty (path : String) : extension path ≠ "" := by
  rw [extension]
  split
  · decide
  · next hsuffix =>
    rw [Ne, Text.lower_eq_empty_iff, ← String.toList_inj, String.toList_ofList]
    have hne : Text.afterLast (· == '.') (nameChars path.toList) ≠ [] := fun hnil =>
      hsuffix (by rw [hnil]; rfl)
    exact Text.strip_ne_nil_of_suffix hne (Text.afterLast_suffix _ _)

/-- The identity of a format is never the empty text. -/
theorem Format.signature_ne_empty (f : Format) : f.signature ≠ "" := by
  rw [signature, Ne, ← String.toList_inj, String.toList_ofList]
  simp

/-- The labels of a document are not empty. -/
theorem Json.ne_empty_of_mem_labels {j : Json} {s : String} (h : s ∈ j.labels) : s ≠ "" := by
  unfold labels at h
  split at h
  · exact fun hs => by simpa [hs] using (List.mem_filter.1 h).2
  · exact fun hs => by simpa [hs] using (List.mem_filter.1 h).2
  · cases h

/-! ## Records -/

namespace IndexedFile

/-- A record is tidy if its extension is that of its path, and its lists have no empty texts. -/
structure Tidy (r : IndexedFile) : Prop where
  extension : r.extension = FileName.extension r.path
  isPartOf : ∀ s ∈ r.isPartOf, s ≠ ""
  normalizedIds : ∀ s ∈ r.preservation.normalizedIds, s ≠ ""

theorem Tidy.extension_ne_empty {r : IndexedFile} (h : r.Tidy) : r.extension ≠ "" := by
  rw [h.extension]
  exact FileName.extension_ne_empty r.path

end IndexedFile

/-- The identifiers of derived objects are not empty. -/
theorem Preservation.Reads.ne_empty_of_mem {p : Preservation} {mets : Json} (h : p.Reads mets)
    {s : String} (hs : s ∈ p.normalizedIds) : s ≠ "" := by
  rw [h.normalizedIds, ← filter_relatedId] at hs
  have hmem := List.mem_filter.1 (List.mem_eraseDups.1 (List.mem_mergeSort.1 hs))
  exact fun hempty => by simp [hempty] at hmem

/-- **The record of a document is tidy.** -/
theorem IndexedFile.tidy_of_ofSource {source : Json} {r : IndexedFile}
    (h : ofSource source = .ok r) : r.Tidy := by
  obtain ⟨-, hmets⟩ | ⟨-, p, hreads, hmets⟩ := Preservation.ofMets_outcome (source.get "METS")
  · rw [ofSource, hmets, Outcome.error_bind] at h
    cases h
  · rw [ofSource, hmets, Outcome.ok_bind, Outcome.pure_eq_ok] at h
    rw [← Except.ok.inj h]
    exact
      { extension := by dsimp only
        isPartOf := fun _ => Json.ne_empty_of_mem_labels (j := source.get "isPartOf")
        normalizedIds := fun _ => hreads.ne_empty_of_mem }

end ArchiveCensus
