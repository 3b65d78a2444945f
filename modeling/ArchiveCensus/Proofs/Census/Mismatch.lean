import Mathlib.Logic.Relation
import ArchiveCensus.Census.Basic
import ArchiveCensus.Proofs.Metadata.FileName

/-!
# Proofs/Census/Mismatch — an extension by whatever spelling

Whether an extension contradicts a format is told by three texts.  Each is folded before it is
compared, and the extension loses one dot at its front; a record has done so before with the
extension that its document states.  So the verdict is the same for every spelling with the same
fold.

* `Text.Restyles` and `Format.RestylesExtension` — a text in another spelling.
* `Format.fold_restyles` and `Format.compared_restyles` — it is compared alike.
* `FileName.IsOwn.compared_stated` — so is the extension of a path, where a document states it.
* `Census.isMismatch_restyled` — no spelling changes the verdict, nor what a census counts.
-/

namespace ArchiveCensus

open Text

/-! ## Spellings -/

/-- A text in another spelling: letters of ASCII in another case, or padding around it. -/
inductive Text.Restyles : String → String → Prop where
  | letters {s s' : String}
      (h : s'.toList.map Numeral.asciiLower = s.toList.map Numeral.asciiLower) : Restyles s s'
  | padding (s : String) {front back : String} (hfront : ∀ c ∈ front.toList, isPadding c = true)
      (hback : ∀ c ∈ back.toList, isPadding c = true) : Restyles s (front ++ s ++ back)

/-- An extension in another spelling: that of a text, or a dot in front of a trimmed one that starts
with none. -/
inductive Format.RestylesExtension : String → String → Prop where
  | text {s s' : String} (h : Restyles s s') : RestylesExtension s s'
  | dot {s : String} (htrim : trim s = s) (hdot : s.toList.head? ≠ some '.') :
      RestylesExtension s ("." ++ s)

/-! ## Folding -/

namespace Format

/-- What an extension is compared by. -/
def compared (extension : String) : String := dropDot (fold extension)

theorem fold_lower (s : String) : fold (lower s) = fold s := by
  rw [fold, fold, trim_lower, lower_lower]

/-- **To fold a text again changes nothing.** -/
theorem fold_fold (s : String) : fold (fold s) = fold s := by
  have htrim : trim (trim s) = trim s := by
    rw [trim, toList_trim, (edgesFree_strip isPadding s.toList).strip_eq, trim]
  show fold (lower (trim s)) = fold s
  rw [fold_lower, fold, fold, htrim]

/-- **A text is folded alike in every spelling.** -/
theorem fold_restyles {s s' : String} (h : Restyles s s') : fold s' = fold s := by
  cases h with
  | letters h =>
    have hlower : ∀ t : String, fold t = String.ofList
        (lowerAfter [] (strip isPadding (t.toList.map Numeral.asciiLower))) := fun t => by
      rw [strip_map (fun c => (asciiLower_spec c).2.2.2.1), lowerAfter_map_asciiLower, fold, lower,
        toList_trim]
    rw [hlower, hlower, h]
  | padding hfront hback =>
    rw [fold, fold, trim, String.toList_append, String.toList_append, strip_padded hfront hback, trim]

/-! ## A dot in front -/

theorem toList_dot (s : String) : ("." ++ s).toList = '.' :: s.toList := String.toList_append

theorem dropDot_dot (s : String) : dropDot ("." ++ s) = s := by
  rw [dropDot, toList_dot]
  exact String.ofList_toList

theorem dropDot_eq_self {s : String} (h : s.toList.head? ≠ some '.') : dropDot s = s := by
  rw [dropDot]
  split
  · next hdot =>
    rw [hdot] at h
    exact absurd rfl h
  · rfl

/-- Lower case brings no dot to the front. -/
theorem head?_lower_ne_dot {s : String} (h : s.toList.head? ≠ some '.') :
    (lower s).toList.head? ≠ some '.' := by
  rw [lower, String.toList_ofList]
  cases hcs : s.toList with
  | nil => simp
  | cons c cs =>
    rw [hcs] at h
    rw [lowerAfter_cons, List.head?_append_of_ne_nil _ (lowerAt_ne_nil [] c cs)]
    intro hdot
    obtain ⟨rfl, -⟩ | hsmall := mem_lowerAt (List.mem_of_mem_head? hdot)
    · exact h rfl
    · exact absurd hsmall.le_toNat (by decide)

/-- A text behind a dot keeps its front, and is trimmed at its end alone. -/
theorem fold_dot (s : String) :
    fold ("." ++ s) = "." ++ lower (String.ofList (stripEnd isPadding s.toList)) := by
  have hfront : ∀ c ∈ ('.' :: s.toList).head?, isPadding c = false := by
    rintro c ⟨⟩
    decide
  have htrim : trim ("." ++ s) = "." ++ String.ofList (stripEnd isPadding s.toList) := by
    rw [← String.toList_inj, toList_trim, toList_dot, toList_dot, strip, dropWhile_eq_self hfront,
      stripEnd_cons (by decide), String.toList_ofList]
  rw [fold, htrim, lower_dot]

theorem compared_dot (s : String) :
    compared ("." ++ s) = lower (String.ofList (stripEnd isPadding s.toList)) := by
  rw [compared, fold_dot, dropDot_dot]

/-- **An extension is compared alike in every spelling.** -/
theorem compared_restyles {s s' : String} (h : RestylesExtension s s') :
    compared s' = compared s := by
  cases h with
  | text h => rw [compared, compared, fold_restyles h]
  | dot htrim hdot =>
    have hlist : stripEnd isPadding s.toList = s.toList := by
      rw [← htrim, toList_trim]
      exact stripEnd_eq_self fun c => not_of_getLast?_strip
    rw [compared_dot, hlist, String.ofList_toList, compared, fold, htrim,
      dropDot_eq_self (head?_lower_ne_dot hdot)]

/-- What is alike after one change is alike after any run of them, in either direction. -/
theorem apply_eq_of_eqvGen {r : String → String → Prop} {f : String → String}
    (hf : ∀ s s', r s s' → f s' = f s) {s s' : String} (h : Relation.EqvGen r s s') :
    f s' = f s := by
  induction h with
  | rel s s' hstep => exact hf s s' hstep
  | refl s => rfl
  | symm s s' _ ih => exact ih.symm
  | trans s s' s'' _ _ ih ih' => exact ih'.trans ih

theorem isMismatch_congr {key key' name name' extension extension' : String}
    (hkey : fold key' = fold key) (hname : fold name' = fold name)
    (hextension : compared extension' = compared extension) :
    isMismatch key' name' extension' = isMismatch key name extension := by
  rw [compared, compared] at hextension
  simp only [isMismatch, impliedExtensions, hkey, hname, hextension]

end Format

/-! ## The extension of a path -/

namespace FileName

open Format

/-- The extension of a path, as it is read, or as it stands behind the last dot of the name. -/
inductive IsOwn (path : String) : String → Prop where
  | read : IsOwn path (extension path)
  | written {front back : List Char} (hname : (ofPath path).toList = front ++ '.' :: back)
      (hlast : '.' ∉ back) (hne : back ≠ []) : IsOwn path (String.ofList back)

/-- There is no dot in the extension of a path, so there is none to drop. -/
theorem dropDot_extension (path : String) : dropDot (extension path) = extension path := by
  have hfree : '.' ∉ (extension path).toList := by
    refine (isExtension_extension path).not_mem (fun c hc => ?_) (.inl rfl)
    rw [ofPath, String.toList_ofList] at hc
    exact not_isSeparator_of_mem_nameChars hc
  exact dropDot_eq_self fun hdot => hfree (List.mem_of_mem_head? hdot)

variable {path own : String}

namespace IsOwn

/-- It is the extension of the path when it is folded. -/
theorem fold_eq (h : IsOwn path own) : fold own = extension path := by
  have hextension := isExtension_extension path
  cases h with
  | read =>
    generalize extension path = e at hextension
    cases hextension with
    | unknown => decide +kernel
    | afterDot => exact fold_fold _
  | written hname hlast hne => exact (hextension.unique (.afterDot hname hlast hne)).symm

/-- The extension of a path is compared by itself, -/
theorem compared_eq (h : IsOwn path own) : compared own = extension path := by
  rw [compared, h.fold_eq, dropDot_extension]

/-- also where a dot in front of it has been dropped before, -/
theorem compared_compared_dot (h : IsOwn path own) :
    compared (compared ("." ++ own)) = extension path := by
  have htrim : trim (String.ofList (stripEnd isPadding own.toList)) = trim own := by
    rw [trim, String.toList_ofList, strip_stripEnd, trim]
  have hfold : fold (compared ("." ++ own)) = fold own := by
    rw [compared_dot, fold_lower, fold, htrim, fold]
  rw [compared, hfold, ← compared, h.compared_eq]

/-- **and so where a document states it**, with a dot or without. -/
theorem compared_stated (h : IsOwn path own) {stated : String}
    (hstated : stated = own ∨ stated = "." ++ own) :
    compared (IndexedFile.statedExtensionOf (trim stated) (extension path)) = extension path := by
  have hgiven : ∀ s, fold s ≠ "" →
      IndexedFile.statedExtensionOf (trim s) (extension path) = compared s := fun s hs => by
    rw [IndexedFile.statedExtensionOf, ← fold, if_neg (by simpa using hs), compared]
  obtain rfl | rfl := hstated
  · rw [hgiven _ (h.fold_eq ▸ extension_ne_empty path), h.compared_eq, IsOwn.read.compared_eq]
  · have hdot : fold ("." ++ own) ≠ "" := by
      rw [fold_dot, Ne, ← String.toList_inj, toList_dot]
      exact List.cons_ne_nil _ _
    rw [hgiven _ hdot, h.compared_compared_dot]

end IsOwn

/-- The extension of a path is what a record has where its document states none. -/
theorem compared_unstated (path : String) :
    compared (IndexedFile.statedExtensionOf "" (extension path)) = extension path := by
  have hlower : lower "" = "" := lower_eq_empty_iff.2 rfl
  rw [IndexedFile.statedExtensionOf, hlower, if_pos (by decide), dropDot_extension,
    IsOwn.read.compared_eq]

end FileName

/-! ## Documents -/

namespace Json

/-- A document without the entries of a key. -/
def without (key : String) : Json → Json
  | .obj entries => .obj (entries.filter (·.1 != key))
  | j => j

@[simp] theorem label_null : null.label = "" := rfl

theorem valueOf_filter_ne (key key' : String) : ∀ entries : List (String × Json),
    valueOf key' (entries.filter (·.1 != key)) = if key' = key then .null else valueOf key' entries
  | [] => (ite_self _).symm
  | (k, v) :: rest => by
    rw [List.filter_cons, valueOf]
    by_cases hk : k = key
    · rw [if_neg (by simp [hk]), valueOf_filter_ne key key' rest]
      by_cases hkey : key' = key
      · rw [if_pos hkey, if_pos hkey]
      · rw [if_neg hkey, if_neg hkey, if_neg (hk ▸ Ne.symm hkey)]
    · rw [if_pos (by simp [hk]), valueOf, valueOf_filter_ne key key' rest]
      by_cases hkey : k = key'
      · rw [if_pos hkey, if_pos hkey, if_neg (hkey ▸ hk)]
      · rw [if_neg hkey, if_neg hkey]

/-- Nothing is read of a key that is left out, and all else as before. -/
theorem get_without (key key' : String) (j : Json) :
    (j.without key).get key' = if key' = key then .null else j.get key' := by
  cases j with
  | obj entries => exact valueOf_filter_ne key key' entries
  | _ => exact (ite_self _).symm

/-- What is put at a key is read there, and all else as before. -/
theorem get_put (key key' : String) (value : Json) (entries : List (String × Json)) :
    (obj (put key value entries)).get key' = if key = key' then value else (obj entries).get key' :=
  valueOf_put key key' value entries

end Json

/-! ## The census -/

namespace Census

open Format

/-- What a document adds to the mismatches of a census, if it is taken in. -/
theorem mismatches_addSource (c : Census) (source : Json) :
    (c.addSource source).map (·.counters.mismatches) =
      (Preservation.ofMets (source.get "METS")).map fun p =>
        c.counters.mismatches + (isMismatch p.format.registryKey p.format.name
          (IndexedFile.statedExtensionOf (source.get "fileExtension").label
            (FileName.extension (source.get "filePath").label))).toNat := by
  rw [addSource, IndexedFile.ofSource]
  cases Preservation.ofMets (source.get "METS") with
  | error d => simp only [Outcome.error_bind, Except.map]
  | ok p => simp only [Outcome.ok_bind, Outcome.pure_eq_ok, Except.map, add, Counters.add]

/-- Two documents with the same export add the same, if their extensions are compared alike. -/
theorem mismatches_addSource_congr (c : Census) {source source' : Json}
    (hmets : source'.get "METS" = source.get "METS")
    (hextension : compared (IndexedFile.statedExtensionOf (source'.get "fileExtension").label
        (FileName.extension (source'.get "filePath").label)) =
      compared (IndexedFile.statedExtensionOf (source.get "fileExtension").label
        (FileName.extension (source.get "filePath").label))) :
    (c.addSource source').map (·.counters.mismatches) =
      (c.addSource source).map (·.counters.mismatches) := by
  have hsame := fun key name => isMismatch_congr (rfl : fold key = fold key) (rfl : fold name = fold name)
    hextension
  simp only [mismatches_addSource, hmets, hsame]

/-- **The verdict on an extension is the same in every spelling** of the three texts that it is told
by.  And a census counts alike whether a document states the extension of its path, with a dot in
front or without, or leaves it out. -/
theorem isMismatch_restyled :
    (∀ key key' name name' extension extension' : String,
      Relation.EqvGen Restyles key key' → Relation.EqvGen Restyles name name' →
      Relation.EqvGen RestylesExtension extension extension' →
        isMismatch key' name' extension' = isMismatch key name extension) ∧
    ∀ (c : Census) (entries : List (String × Json)) (own stated : String),
      FileName.IsOwn ((Json.obj entries).get "filePath").label own →
      (stated = own ∨ stated = "." ++ own) →
        (c.addSource (.obj (Json.put "fileExtension" (.str stated) entries))).map
            (·.counters.mismatches) =
          (c.addSource ((Json.obj entries).without "fileExtension")).map
            (·.counters.mismatches) := by
  refine ⟨fun key key' name name' extension extension' hkey hname hextension => ?_,
    fun c entries own stated hown hstated => ?_⟩
  · have hfold : ∀ {s s' : String}, Relation.EqvGen Restyles s s' → fold s' = fold s :=
      apply_eq_of_eqvGen (f := fold) fun _ _ => fold_restyles
    have hcompared : compared extension' = compared extension :=
      apply_eq_of_eqvGen (f := compared) (fun _ _ => compared_restyles) hextension
    exact isMismatch_congr (hfold hkey) (hfold hname) hcompared
  · have hother : ∀ key, "fileExtension" ≠ key →
        (Json.obj (Json.put "fileExtension" (.str stated) entries)).get key =
          ((Json.obj entries).without "fileExtension").get key := fun key hkey => by
      rw [Json.get_put, if_neg hkey, Json.get_without, if_neg hkey.symm]
    have hstatedLabel : ((Json.obj (Json.put "fileExtension" (.str stated) entries)).get
        "fileExtension").label = trim stated := by
      rw [Json.get_put, if_pos rfl, Json.label]
    have hnoLabel : (((Json.obj entries).without "fileExtension").get "fileExtension").label = "" := by
      rw [Json.get_without, if_pos rfl, Json.label_null]
    have hpath : ((Json.obj entries).without "fileExtension").get "filePath" =
        (Json.obj entries).get "filePath" := by
      rw [Json.get_without, if_neg (by decide)]
    refine mismatches_addSource_congr c (hother "METS" (by decide)) ?_
    rw [hother "filePath" (by decide), hstatedLabel, hnoLabel, hpath, hown.compared_stated hstated,
      FileName.compared_unstated]

/-- A picture that is named as if it had another format. -/
def misnamed : List (String × Json) :=
  [("filePath", .str "objects/map.TIF"), ("METS", .obj [("amdSec", .obj [("mets:amdSec_dict",
    .obj [("mets:techMD_dict", .obj [("mets:mdWrap_dict", .obj [("mets:xmlData_dict",
      .obj [("premis:object_dict", .obj [("premis:objectCharacteristics_dict",
        .obj [("premis:format_dict", .obj [("premis:formatRegistry_dict",
          .obj [("premis:formatRegistryKey", .str "fmt/11")])])])])])])])])])])]

/-- Its key and its extension in another spelling. -/
theorem eqvGen_misnamed : Relation.EqvGen Restyles "fmt/11" "FMT/11" ∧
    Relation.EqvGen RestylesExtension "tif" (" " ++ ("." ++ "TIF") ++ "\t") := by
  have hletters : RestylesExtension "tif" "TIF" := .text (.letters (by decide +kernel))
  have hdot : RestylesExtension "TIF" ("." ++ "TIF") := .dot (by decide +kernel) (by decide)
  have hpadding : RestylesExtension ("." ++ "TIF") (" " ++ ("." ++ "TIF") ++ "\t") :=
    .text (.padding _ (List.all_eq_true.1 (by decide)) (List.all_eq_true.1 (by decide)))
  exact ⟨.rel _ _ (.letters (by decide +kernel)),
    .trans _ _ _ (.trans _ _ _ (.rel _ _ hletters) (.rel _ _ hdot)) (.rel _ _ hpadding)⟩

theorem isOwn_misnamed : FileName.IsOwn ((Json.obj misnamed).get "filePath").label "TIF" := by
  have hname : (FileName.ofPath ((Json.obj misnamed).get "filePath").label).toList =
      "map".toList ++ '.' :: "TIF".toList := by decide +kernel
  exact .written hname (by decide) (by decide)

theorem mismatches_misnamed : isMismatch "fmt/11" "" "tif" = true ∧
    (((start "aip").addSource ((Json.obj misnamed).without "fileExtension")).map
      (·.counters.mismatches)).toOption = some 1 :=
  ⟨by decide +kernel, by decide +kernel⟩

/-- A picture that is named as if it had another format is a mismatch in every spelling, also where
the extension of its path is stated. -/
theorem isMismatch_restyled_misnamed :
    isMismatch "FMT/11" "" (" " ++ ("." ++ "TIF") ++ "\t") = true ∧
    (((start "aip").addSource
      (.obj (Json.put "fileExtension" (.str ("." ++ "TIF")) misnamed))).map
        (·.counters.mismatches)).toOption = some 1 := by
  obtain ⟨hkey, hextension⟩ := eqvGen_misnamed
  obtain ⟨hmismatch, hcount⟩ := mismatches_misnamed
  constructor
  · exact (isMismatch_restyled.1 _ _ _ _ _ _ hkey (.refl "") hextension).trans hmismatch
  · rw [isMismatch_restyled.2 (start "aip") misnamed "TIF" _ isOwn_misnamed (.inr rfl)]
    exact hcount

end Census

end ArchiveCensus
