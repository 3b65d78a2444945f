import Mathlib.Logic.Relation
import ArchiveCensus.Proofs.Census.Intake

/-!
# Proofs/Metadata/Repeated — one item reads as a list of it

Where an element of an index document may be repeated, one of it may stand by itself or in a list,
and a list may have other things in it that are none of its kind.  Records are the same however that
is spelled, and so are the defects.

* `Json.Respells`, `Json.ChangesAt` — an element spelled in another way, and a document in which what
  stands at the end of a path is changed.
* `Preservation.ofMets_of_provenance`, `Preservation.ofMets_of_relationships` — either of the
  repeated elements of an export may be respelled.
* `IndexedFile.ofSource_respelled` — any run of such changes leaves the record as it is.
-/

namespace ArchiveCensus

namespace Json

/-! ## Kinds -/

/-- Whether a document is a map. -/
def IsMap (j : Json) : Prop := ∃ entries, j = .obj entries

/-- Whether a document is a text. -/
def IsText (j : Json) : Prop := ∃ s, j = .str s

/-- Nothing is found in a document that is no map, -/
theorem get_of_not_isMap {j : Json} (h : ¬ j.IsMap) (key : String) : j.get key = .null := by
  cases j with
  | obj entries => exact absurd ⟨entries, rfl⟩ h
  | _ => rfl

theorem follow_append (j : Json) (front path : List String) :
    j.follow (front ++ path) = (j.follow front).follow path :=
  List.foldl_append

theorem follow_null (path : List String) : null.follow path = .null := by
  induction path with
  | nil => rfl
  | cons key path ih => exact ih

/-- by whatever path. -/
theorem follow_of_not_isMap {j : Json} (h : ¬ j.IsMap) (key : String) (path : List String) :
    j.follow (key :: path) = .null := by
  rw [follow_cons, get_of_not_isMap h, follow_null]

theorem label_of_not_isText {j : Json} (h : ¬ j.IsText) : j.label = "" := by
  cases j with
  | str s => exact absurd ⟨s, rfl⟩ h
  | _ => rfl

/-! ## Lists -/

section

variable {IsItem : Json → Prop} {items items' : List Json} {j j' : Json}

/-- A list becomes another with more in it that is none of the items. -/
inductive Inserts (IsItem : Json → Prop) : List Json → List Json → Prop where
  | nil : Inserts IsItem [] []
  | keep (j : Json) {items items' : List Json} (h : Inserts IsItem items items') :
      Inserts IsItem (j :: items) (j :: items')
  | more {j : Json} (hj : ¬ IsItem j) {items items' : List Json}
      (h : Inserts IsItem items items') : Inserts IsItem items (j :: items')

theorem Inserts.refl : ∀ items : List Json, Inserts IsItem items items
  | [] => .nil
  | j :: items => .keep j (.refl items)

/-- **What is read of the items alone is read as before.** -/
theorem Inserts.filterMap_eq {α : Type} {f : Json → Option α} (hf : ∀ j, ¬ IsItem j → f j = none)
    (h : Inserts IsItem items items') : items'.filterMap f = items.filterMap f := by
  induction h with
  | nil => rfl
  | keep j _ ih => rw [List.filterMap_cons, List.filterMap_cons, ih]
  | more hj _ ih => rw [List.filterMap_cons_none (hf _ hj), ih]

/-- A repeated element is spelled in another way: an item by itself becomes a list with the item and
more in it, and a list becomes a longer one. -/
inductive Respells (IsItem : Json → Prop) : Json → Json → Prop where
  | single {j : Json} (hj : IsItem j) {items : List Json} (h : Inserts IsItem [j] items) :
      Respells IsItem j (.arr items)
  | list {items items' : List Json} (h : Inserts IsItem items items') :
      Respells IsItem (.arr items) (.arr items')

/-- The items of a repeated element stay, -/
theorem Respells.repeated (h : Respells IsMap j j') : Inserts IsMap j.repeated j'.repeated := by
  rcases h with ⟨⟨entries, rfl⟩, h⟩ | ⟨h⟩
  · exact h
  · exact h

/-- The label of a document that is a text with something in it. -/
def statedLabel? (j : Json) : Option String := Option.guard (!·.isEmpty) j.label

theorem labels_arr (items : List Json) : (arr items).labels = items.filterMap statedLabel? :=
  filter_map_eq_filterMap _ _ _

/-- and so do its labels. -/
theorem Respells.labels (h : Respells IsText j j') : j'.labels = j.labels := by
  have hother : ∀ j : Json, ¬ j.IsText → statedLabel? j = none := fun j hj => by
    rw [statedLabel?, label_of_not_isText hj]
    rfl
  rcases h with ⟨⟨s, rfl⟩, h⟩ | ⟨h⟩
  · rw [labels_arr, h.filterMap_eq hother, ← labels_arr]
    rfl
  · rw [labels_arr, labels_arr, h.filterMap_eq hother]

end

/-! ## Paths -/

section

variable {Step : Json → Json → Prop} {key key' : String} {path : List String} {d d' : Json}

/-- What stands at the end of a path is changed, and all else is as it was. -/
inductive ChangesAt (Step : Json → Json → Prop) : List String → Json → Json → Prop where
  | here {j j' : Json} (h : Step j j') : ChangesAt Step [] j j'
  | first {key : String} {path : List String} {j j' : Json} (h : ChangesAt Step path j j')
      (rest : List (String × Json)) :
      ChangesAt Step (key :: path) (.obj ((key, j) :: rest)) (.obj ((key, j') :: rest))
  | later {key k : String} {path : List String} {v : Json} (hne : k ≠ key)
      {rest rest' : List (String × Json)} (h : ChangesAt Step (key :: path) (.obj rest) (.obj rest')) :
      ChangesAt Step (key :: path) (.obj ((k, v) :: rest)) (.obj ((k, v) :: rest'))

theorem get_first (j : Json) (rest : List (String × Json)) : (obj ((key, j) :: rest)).get key = j :=
  if_pos rfl

theorem get_later {k : String} (hne : k ≠ key) (v : Json) (rest : List (String × Json)) :
    (obj ((k, v) :: rest)).get key = (obj rest).get key :=
  if_neg hne

namespace ChangesAt

/-- A change below a key is one of the value of the key, -/
theorem get : ∀ {d d' : Json}, ChangesAt Step (key :: path) d d' →
    ChangesAt Step path (d.get key) (d'.get key)
  | _, _, .first h rest => by rwa [get_first, get_first]
  | _, _, .later hne h => by
    rw [get_later hne, get_later hne]
    exact h.get

/-- and of no other. -/
theorem get_of_ne (hkey : key' ≠ key) : ∀ {d d' : Json}, ChangesAt Step (key :: path) d d' →
    d'.get key' = d.get key'
  | _, _, .first _ rest => by rw [get_later (Ne.symm hkey), get_later (Ne.symm hkey)]
  | _, _, @later _ _ k _ v hne rest rest' h => by
    have hrest := h.get_of_ne hkey
    rcases eq_or_ne k key' with rfl | hk
    · rw [get_first, get_first]
    · rw [get_later hk, get_later hk, hrest]

/-- So it is along a path, -/
theorem follow : ∀ {front : List String} {d d' : Json}, ChangesAt Step (front ++ path) d d' →
    ChangesAt Step path (d.follow front) (d'.follow front)
  | [], _, _, h => h
  | _ :: _, _, _, h => h.get.follow

/-- to what stands at the end of it. -/
theorem step (h : ChangesAt Step [] d d') : Step d d' := by
  rcases h with ⟨h⟩
  exact h

end ChangesAt

end

end Json

open Json

/-! ## Exports -/

namespace Preservation

/-- The date of what is no provenance element is absent, -/
theorem ofJson_eventDateIn_of_not_isMap {j : Json} (h : ¬ j.IsMap) :
    Timestamp.ofJson (eventDateIn j) = .ok none := by
  rw [eventDateIn, eventPath, follow_of_not_isMap h, get_null]
  decide

/-- nothing is stated of its event, -/
theorem statedEvent?_of_not_isMap {j : Json} (h : ¬ j.IsMap) : statedEvent? j = none := by
  have hevent : eventOf j = eventOf .null := by
    rw [eventOf, eventPath, follow_of_not_isMap h]
    rfl
  rw [statedEvent?, hevent]
  decide

/-- and what is no relationship leads to no object. -/
theorem statedId?_of_not_isMap {j : Json} (h : ¬ j.IsMap) : statedId? j = none := by
  rw [statedId?, relatedId, follow_of_not_isMap h]
  decide

/-- The dates of provenance elements are as before with other things between these. -/
theorem datesOf_inserts {elements elements' : List Json} (h : Inserts IsMap elements elements') :
    datesOf elements' = datesOf elements := by
  induction h with
  | nil => rfl
  | keep element _ ih => rw [datesOf, datesOf, ih]
  | @more element hother elements elements' _ ih =>
    rw [datesOf, ← eventDateIn, ofJson_eventDateIn_of_not_isMap hother, Outcome.ok_bind, ih]
    cases datesOf elements <;> rfl

variable {mets mets' : Json}

/-- What an export says of its file is read of its characteristics, its provenance elements and its
relationships. -/
theorem ofMets_congr
    (hobject : (object mets').get "premis:objectCharacteristics_dict" =
      (object mets).get "premis:objectCharacteristics_dict")
    (hprovenance : Inserts IsMap (provenance mets) (provenance mets'))
    (hrelationships : Inserts IsMap (relationshipsIn mets) (relationshipsIn mets')) :
    ofMets mets' = ofMets mets := by
  have hevents := hprovenance.filterMap_eq fun _ => statedEvent?_of_not_isMap
  have hids := hrelationships.filterMap_eq fun _ => statedId?_of_not_isMap
  rw [← filter_eventOf, ← filter_eventOf] at hevents
  rw [← filter_relatedId, ← filter_relatedId] at hids
  have hnormalized : normalizedIdsOf mets' = normalizedIdsOf mets :=
    congrArg Text.sortedDistinct hids
  simp only [ofMets, hobject, datesOf_inserts hprovenance, hevents, hnormalized]

/-- **The provenance elements of an export may be respelled.** -/
theorem ofMets_of_provenance
    (h : ChangesAt (Respells IsMap) (adminPath ++ ["mets:digiprovMD_dict"]) mets mets') :
    ofMets mets' = ofMets mets := by
  have hadmin := h.follow
  have hobject : object mets' = object mets := by
    rw [object, object, follow_append, follow_append, objectPath, follow_cons,
      hadmin.get_of_ne (by decide), ← follow_cons]
  refine ofMets_congr (by rw [hobject]) hadmin.get.step.repeated ?_
  rw [relationshipsIn, relationshipsIn, hobject]
  exact .refl _

/-- **So may the relationships of its object.** -/
theorem ofMets_of_relationships
    (h : ChangesAt (Respells IsMap) (adminPath ++ objectPath ++ ["premis:relationship_dict"]) mets
      mets') : ofMets mets' = ofMets mets := by
  have hobject : ChangesAt (Respells IsMap) ["premis:relationship_dict"] (object mets)
      (object mets') := h.follow
  rw [List.append_assoc, objectPath, List.cons_append] at h
  refine ofMets_congr (hobject.get_of_ne (by decide)) ?_ hobject.get.step.repeated
  rw [provenance, provenance, h.follow.get_of_ne (by decide)]
  exact .refl _

end Preservation

/-! ## Records -/

namespace IndexedFile

/-- A record is read of the export of its document, the packages it is part of, and other fields. -/
theorem ofSource_congr {source source' : Json}
    (hmets : Preservation.ofMets (source'.get "METS") = Preservation.ofMets (source.get "METS"))
    (hparts : (source'.get "isPartOf").labels = (source.get "isPartOf").labels)
    (hothers : ∀ key, key ≠ "METS" → key ≠ "isPartOf" → source'.get key = source.get key) :
    ofSource source' = ofSource source := by
  simp (disch := decide) only [ofSource, hmets, hparts, hothers]

/-- Where the provenance elements of an index document stand. -/
def provenancePath : List String := "METS" :: (Preservation.adminPath ++ ["mets:digiprovMD_dict"])

/-- Where the relationships of its object stand. -/
def relationshipsPath : List String :=
  "METS" :: (Preservation.adminPath ++ Preservation.objectPath ++ ["premis:relationship_dict"])

/-- A document in which one repeated element is respelled. -/
inductive Respelled (source source' : Json) : Prop where
  | provenance (h : ChangesAt (Respells IsMap) provenancePath source source')
  | relationships (h : ChangesAt (Respells IsMap) relationshipsPath source source')
  | isPartOf (h : ChangesAt (Respells IsText) ["isPartOf"] source source')

/-- A change in the export leaves the other fields as they are. -/
theorem ofSource_of_mets {Step : Json → Json → Prop} {path : List String} {source source' : Json}
    (h : ChangesAt Step ("METS" :: path) source source')
    (hmets : ∀ {mets mets' : Json}, ChangesAt Step path mets mets' →
      Preservation.ofMets mets' = Preservation.ofMets mets) :
    ofSource source' = ofSource source :=
  ofSource_congr (hmets h.get) (congrArg labels (h.get_of_ne (by decide)))
    fun _ hne _ => h.get_of_ne hne

/-- The record is the same after one change, -/
theorem Respelled.ofSource_eq {source source' : Json} (h : Respelled source source') :
    ofSource source' = ofSource source := by
  rcases h with h | h | h
  · exact ofSource_of_mets h Preservation.ofMets_of_provenance
  · exact ofSource_of_mets h Preservation.ofMets_of_relationships
  · exact ofSource_congr (congrArg Preservation.ofMets (h.get_of_ne (by decide))) h.get.step.labels
      fun _ _ hne => h.get_of_ne hne

/-- **and after any run of them.** -/
theorem ofSource_respelled {source source' : Json}
    (h : Relation.ReflTransGen Respelled source source') : ofSource source' = ofSource source := by
  induction h with
  | refl => rfl
  | tail _ hlast ih => rw [hlast.ofSource_eq, ih]

/-- A document with a provenance element, a relationship and the packages it is part of. -/
def stored (element relationship isPartOf : Json) : Json :=
  .obj [("filePath", .str "objects/map.tif"), ("isPartOf", isPartOf),
    ("METS", .obj [("amdSec", .obj [("mets:amdSec_dict", .obj [
      ("mets:techMD_dict", .obj [("mets:mdWrap_dict", .obj [("mets:xmlData_dict", .obj [
        ("premis:object_dict", .obj [("premis:relationship_dict", relationship)])])])]),
      ("mets:digiprovMD_dict", element)])])])]

/-- One event, -/
def ingestion : Json :=
  .obj [("mets:mdWrap_dict", .obj [("mets:xmlData_dict", .obj [("premis:event_dict",
    .obj [("premis:eventType", .str "ingestion")])])])]

/-- and one relationship. -/
def derivation : Json :=
  .obj [("premis:relatedObjectIdentifier_dict",
    .obj [("premis:relatedObjectIdentifierValue", .str "access-copy")])]

section

variable {element element' relationship relationship' isPartOf isPartOf' : Json}

/-- Each of the three may be respelled. -/
theorem respelled_stored (helement : Respells IsMap element element')
    (hrelationship : Respells IsMap relationship relationship')
    (hparts : Respells IsText isPartOf isPartOf') :
    Relation.ReflTransGen Respelled (stored element relationship isPartOf)
      (stored element' relationship' isPartOf') := by
  have hprovenance : Respelled (stored element relationship isPartOf)
      (stored element' relationship isPartOf) :=
    .provenance (.later (by decide) (.later (by decide) (.first (.first (.first
      (.later (by decide) (.first (.here helement) _)) _) _) _)))
  have hobject : Respelled (stored element' relationship isPartOf)
      (stored element' relationship' isPartOf) :=
    .relationships (.later (by decide) (.later (by decide) (.first (.first (.first
      (.first (.first (.first (.first (.first (.here hrelationship) _) _) _) _) _) _) _) _)))
  have hlast : Respelled (stored element' relationship' isPartOf)
      (stored element' relationship' isPartOf') :=
    .isPartOf (.later (by decide) (.first (.here hparts) _))
  exact .tail (.tail (.single hprovenance) hobject) hlast

end

/-- A document with one of each reads as the one in which each is in a list with other things. -/
theorem ofSource_respelled_stored :
    Relation.ReflTransGen Respelled (stored ingestion derivation (.str "atlas"))
      (stored (.arr [.null, ingestion]) (.arr [derivation, .str "x"])
        (.arr [.int 7, .str "atlas", .arr []])) ∧
    ∃ r, ofSource (stored ingestion derivation (.str "atlas")) = .ok r ∧
      ofSource (stored (.arr [.null, ingestion]) (.arr [derivation, .str "x"])
        (.arr [.int 7, .str "atlas", .arr []])) = .ok r ∧
      r.isPartOf = ["atlas"] ∧ r.preservation.normalizedIds = ["access-copy"] ∧
      r.preservation.events = [⟨"ingestion", "", ""⟩] := by
  have hrun : Relation.ReflTransGen Respelled (stored ingestion derivation (.str "atlas"))
      (stored (.arr [.null, ingestion]) (.arr [derivation, .str "x"])
        (.arr [.int 7, .str "atlas", .arr []])) :=
    respelled_stored
      (.single ⟨_, rfl⟩ (.more (fun hmap => nomatch hmap.choose_spec) (.refl _)))
      (.single ⟨_, rfl⟩ (.keep _ (.more (fun hmap => nomatch hmap.choose_spec) .nil)))
      (.single ⟨_, rfl⟩ (.more (fun htext => nomatch htext.choose_spec)
        (.keep _ (.more (fun htext => nomatch htext.choose_spec) .nil))))
  have hknown : (ofSource (stored ingestion derivation (.str "atlas"))).toOption.map (fun r =>
      (r.isPartOf, r.preservation.normalizedIds, r.preservation.events)) =
        some (["atlas"], ["access-copy"], [⟨"ingestion", "", ""⟩]) := by decide +kernel
  refine ⟨hrun, ?_⟩
  rw [ofSource_respelled hrun]
  rcases hsource : ofSource (stored ingestion derivation (.str "atlas")) with d | r
  · rw [hsource] at hknown
    cases hknown
  · rw [hsource] at hknown
    rcases Prod.mk.inj (Option.some.inj hknown) with ⟨hparts, hrest⟩
    rcases Prod.mk.inj hrest with ⟨hids, hevents⟩
    exact ⟨r, rfl, rfl, hparts, hids, hevents⟩

end IndexedFile

end ArchiveCensus
