import ArchiveCensus.Census.Basic
import ArchiveCensus.Proofs.Time.Timestamp

/-!
# Proofs/Census/Intake — what a census takes in

A census takes in every document but one that states a date outside the calendar.  What it takes in
is a record of what can be read: sizes, dates, events and relationships that cannot be read are left
out of it.

* `IndexedFile.Reads` — what a record has of its document.
* `Census.addSource_outcome`, `Census.addSources_outcome` — which documents are taken in.
* `Census.not_addSource_eastern` — a document that is not, for one date of an event.
-/

namespace ArchiveCensus

/-! ## What a document states -/

namespace Json

/-- The number that a document states: itself, or that of its text. -/
def statedNumber? : Json → Option Binary64
  | .num n => some n.toDouble
  | .str s => Numeral.decimalNumber? (Text.strip Text.isPadding s.toList)
  | _ => none

/-- The finite number that a document states. -/
def finiteNumber? (j : Json) : Option Binary64 := j.statedNumber?.filter Binary64.isFinite

/-- The size that a document states: the whole part of a number, if it is positive. -/
def statedSize? (j : Json) : Option Nat :=
  j.finiteNumber?.bind fun x => if 0 < x.wholePart then some x.wholePart.toNat else none

/-- A document measures what it states, and nothing if it states no number. -/
theorem measure_eq (j : Json) : j.measure = j.finiteNumber?.getD .zero := by
  have hfinite : ∀ x : Binary64, finiteOrZero x = ((some x).filter Binary64.isFinite).getD .zero :=
    fun x => by
      rw [finiteOrZero, Option.filter]
      split <;> rfl
  cases j with
  | num n => exact hfinite n.toDouble
  | str s =>
    rw [measure, finiteNumber?, statedNumber?]
    cases Numeral.decimalNumber? (Text.strip Text.isPadding s.toList) with
    | none => rfl
    | some x => exact hfinite x
  | null | bool | arr | obj => rfl

theorem not_pos_wholePart_zero : ¬ 0 < Binary64.zero.wholePart := by
  rw [Binary64.zero, Binary64.wholePart, Nat.zero_div]
  decide

theorem statedSize?_eq (j : Json) :
    j.statedSize? = if 0 < j.wholeMeasure then some j.wholeMeasure.toNat else none := by
  rw [statedSize?, wholeMeasure, measure_eq]
  cases j.finiteNumber? with
  | none => exact (if_neg not_pos_wholePart_zero).symm
  | some x => rfl

end Json

/-- The first positive size is the first that is stated. -/
theorem IndexedFile.firstPositive_eq : ∀ documents : List Json,
    firstPositive (documents.map Json.wholeMeasure) =
      (documents.filterMap Json.statedSize?).head?.getD 0
  | [] => rfl
  | j :: rest => by
    rw [List.map_cons, firstPositive, List.filterMap_cons, Json.statedSize?_eq]
    split
    · rfl
    · exact firstPositive_eq rest

/-- What is made of some items and kept is what each of them gives, if anything. -/
theorem filter_map_eq_filterMap {α β : Type} (p : β → Bool) (f : α → β) (items : List α) :
    (items.map f).filter p = items.filterMap fun a => Option.guard p (f a) := by
  rw [← List.filterMap_eq_filter, List.filterMap_map]
  rfl

namespace Preservation

/-- The size that an export states. -/
def sizeIn (mets : Json) : Json :=
  ((object mets).get "premis:objectCharacteristics_dict").get "premis:size"

/-- The date of creation that an export states. -/
def createdIn (mets : Json) : Json :=
  ((object mets).get "premis:objectCharacteristics_dict").follow
    ["premis:creatingApplication_dict", "premis:dateCreatedByApplication"]

/-- The date that a provenance element states. -/
def eventDateIn (element : Json) : Json := (element.follow eventPath).get "premis:eventDateTime"

/-- All dates that an export states. -/
def datesIn (mets : Json) : List Json := createdIn mets :: (provenance mets).map eventDateIn

/-- The event of a provenance element, if anything is stated of it. -/
def statedEvent? (element : Json) : Option Event := Option.guard isStated (eventOf element)

/-- The identifier that a relationship states. -/
def statedId? (relationship : Json) : Option String :=
  Option.guard (!·.isEmpty) (relatedId relationship)

/-- The relationships that an export states. -/
def relationshipsIn (mets : Json) : List Json :=
  ((object mets).get "premis:relationship_dict").repeated

theorem filter_eventOf (elements : List Json) :
    (elements.map eventOf).filter isStated = elements.filterMap statedEvent? :=
  filter_map_eq_filterMap _ _ _

theorem filter_relatedId (relationships : List Json) :
    (relationships.map relatedId).filter (!·.isEmpty) = relationships.filterMap statedId? :=
  filter_map_eq_filterMap _ _ _

/-- **What becomes of the dates of events**: the first that strays is a defect, and else those that
are no dates are left out. -/
theorem datesOf_outcome : ∀ elements : List Json,
    (∃ date ∈ elements.map eventDateIn, Timestamp.Strays date) ∧
        datesOf elements = .error .dateOutOfRange ∨
      (∀ date ∈ elements.map eventDateIn, ¬ Timestamp.Strays date) ∧
        datesOf elements = .ok ((elements.map eventDateIn).filterMap Timestamp.instant?)
  | [] => .inr ⟨fun _ hnone => (nomatch hnone), rfl⟩
  | element :: rest => by
    rw [datesOf, ← eventDateIn, List.map_cons, List.exists_mem_cons_iff, List.forall_mem_cons,
      List.filterMap_cons]
    obtain ⟨hstrays, hfirst⟩ | ⟨hstays, hfirst⟩ := Timestamp.ofJson_outcome (eventDateIn element)
    · refine .inl ⟨.inl hstrays, ?_⟩
      rw [hfirst, Outcome.error_bind]
    · obtain ⟨hstrays, hrest⟩ | ⟨hstay, hrest⟩ := datesOf_outcome rest
      · refine .inl ⟨.inr hstrays, ?_⟩
        rw [hfirst, Outcome.ok_bind, hrest, Outcome.error_bind]
      · refine .inr ⟨⟨hstays, hstay⟩, ?_⟩
        rw [hfirst, Outcome.ok_bind, hrest, Outcome.ok_bind]
        cases Timestamp.instant? (eventDateIn element) <;> rfl

/-- What is said of a file of its export: what can be read, and nothing in the place of what
cannot. -/
structure Reads (p : Preservation) (mets : Json) : Prop where
  size : p.size = (sizeIn mets).wholeMeasure
  created : p.created = Timestamp.instant? (createdIn mets)
  eventDates : p.eventDates =
    ((provenance mets).map eventDateIn).filterMap Timestamp.instant?
  events : p.events = (provenance mets).filterMap statedEvent?
  normalizedIds : p.normalizedIds = Text.sortedDistinct ((relationshipsIn mets).filterMap statedId?)

/-- **What becomes of an export**: a defect where a date strays, and else what can be read. -/
theorem ofMets_outcome (mets : Json) :
    (∃ date ∈ datesIn mets, Timestamp.Strays date) ∧ ofMets mets = .error .dateOutOfRange ∨
      (∀ date ∈ datesIn mets, ¬ Timestamp.Strays date) ∧
        ∃ p : Preservation, p.Reads mets ∧ ofMets mets = .ok p := by
  rw [ofMets, datesIn, List.exists_mem_cons_iff, List.forall_mem_cons, ← createdIn]
  obtain ⟨hstrays, hdates⟩ | ⟨hstay, hdates⟩ := datesOf_outcome (provenance mets)
  · refine .inl ⟨.inr hstrays, ?_⟩
    rw [hdates, Outcome.error_bind]
  · obtain ⟨hstrays, hcreated⟩ | ⟨hstays, hcreated⟩ := Timestamp.ofJson_outcome (createdIn mets)
    · refine .inl ⟨.inl hstrays, ?_⟩
      rw [hdates, Outcome.ok_bind, hcreated, Outcome.error_bind]
    · refine .inr ⟨⟨hstays, hstay⟩, ?_⟩
      rw [hdates, Outcome.ok_bind, hcreated, Outcome.ok_bind]
      refine ⟨_, ?_, rfl⟩
      exact {
        size := by dsimp only [sizeIn]
        created := by dsimp only
        eventDates := by dsimp only
        events := filter_eventOf (provenance mets)
        normalizedIds := congrArg Text.sortedDistinct (filter_relatedId (relationshipsIn mets)) }

end Preservation

/-! ## Records -/

namespace IndexedFile

/-- What a record has of its document: what can be read, and nothing in the place of what cannot. -/
structure Reads (r : IndexedFile) (source : Json) : Prop where
  /-- The size is the first that is stated. -/
  size : r.size = ([Preservation.sizeIn (source.get "METS"), source.get "size",
    source.get "FileSize"].filterMap Json.statedSize?).head?.getD 0
  indexed : r.indexed = (source.get "indexedAt").finiteNumber?.bind Instant.ofSeconds?
  preservation : r.preservation.Reads (source.get "METS")

/-- Zero seconds are no instant. -/
theorem ofSeconds?_measure (j : Json) :
    Instant.ofSeconds? j.measure = j.finiteNumber?.bind Instant.ofSeconds? := by
  rw [Json.measure_eq]
  cases j.finiteNumber? with
  | none => rfl
  | some x => rfl

/-- **What becomes of a document**: a defect where a date strays, and else the record of what can be
read. -/
theorem ofSource_outcome (source : Json) :
    (∃ date ∈ Preservation.datesIn (source.get "METS"), Timestamp.Strays date) ∧
        ofSource source = .error .dateOutOfRange ∨
      (∀ date ∈ Preservation.datesIn (source.get "METS"), ¬ Timestamp.Strays date) ∧
        ∃ r, r.Reads source ∧ ofSource source = .ok r := by
  obtain ⟨hstrays, hmets⟩ | ⟨hstay, p, hreads, hmets⟩ :=
    Preservation.ofMets_outcome (source.get "METS")
  · refine .inl ⟨hstrays, ?_⟩
    rw [ofSource, hmets, Outcome.error_bind]
  · have hsize := firstPositive_eq [Preservation.sizeIn (source.get "METS"), source.get "size",
      source.get "FileSize"]
    rw [List.map_cons, ← hreads.size] at hsize
    refine .inr ⟨hstay, ?_⟩
    rw [ofSource, hmets, Outcome.ok_bind]
    exact ⟨_, ⟨hsize, ofSeconds?_measure _, hreads⟩, rfl⟩

end IndexedFile

/-! ## The census -/

namespace Census

/-- Whether a document states a date outside the calendar. -/
def Strays (source : Json) : Prop :=
  ∃ date ∈ Preservation.datesIn (source.get "METS"), Timestamp.Strays date

theorem not_strays_iff {source : Json} :
    ¬ Strays source ↔
      ∀ date ∈ Preservation.datesIn (source.get "METS"), ¬ Timestamp.Strays date := by
  simp only [Strays, not_exists, not_and]

/-- What becomes of several documents: the first that strays leaves no census, and else all records
are taken in. -/
theorem addSources_outcome : ∀ (sources : List Json) (c : Census),
    (∃ source ∈ sources, Strays source) ∧ c.addSources sources = .error .dateOutOfRange ∨
      (∀ source ∈ sources, ¬ Strays source) ∧
        ∃ records, List.Forall₂ IndexedFile.Reads records sources ∧
          c.addSources sources = .ok (records.foldl add c)
  | [], _ => .inr ⟨fun _ hnone => (nomatch hnone), [], .nil, rfl⟩
  | source :: rest, c => by
    rw [addSources, List.foldlM_cons, List.exists_mem_cons_iff, List.forall_mem_cons, addSource,
      not_strays_iff]
    obtain ⟨hstrays, hsource⟩ | ⟨hstay, r, hreads, hsource⟩ := IndexedFile.ofSource_outcome source
    · exact .inl ⟨.inl hstrays, by rw [hsource]; rfl⟩
    · rw [hsource]
      obtain ⟨hstrays, hrest⟩ | ⟨hstays, records, hall, hrest⟩ := addSources_outcome rest (c.add r)
      · exact .inl ⟨.inr hstrays, hrest⟩
      · exact .inr ⟨⟨hstay, hstays⟩, r :: records, .cons hreads hall, hrest⟩

/-- **What a census takes in**: every document but those with a date outside the calendar, and of
these it says that the date is out of range.  Of the others it takes in what can be read. -/
theorem addSource_outcome (c : Census) (source : Json) :
    (∃ date ∈ Preservation.datesIn (source.get "METS"), Timestamp.Strays date) ∧
        c.addSource source = .error .dateOutOfRange ∨
      (∀ date ∈ Preservation.datesIn (source.get "METS"), ¬ Timestamp.Strays date) ∧
        ∃ r, r.Reads source ∧ c.addSource source = .ok (c.add r) := by
  obtain ⟨hstrays, hsource⟩ | ⟨hstay, r, hreads, hsource⟩ := IndexedFile.ofSource_outcome source
  · exact .inl ⟨hstrays, by rw [addSource, hsource]; rfl⟩
  · exact .inr ⟨hstay, r, hreads, by rw [addSource, hsource]; rfl⟩

/-- A document with one event, on the first day of the calendar by a clock that is ahead of UTC. -/
def eastern : Json :=
  .obj [("METS", .obj [("amdSec", .obj [("mets:amdSec_dict", .obj [("mets:digiprovMD_dict",
    .obj [("mets:mdWrap_dict", .obj [("mets:xmlData_dict", .obj [("premis:event_dict",
      .obj [("premis:eventDateTime", .str "0001-01-01T00:00:00+00:01")])])])])])])])]

/-- **One date of one event is enough for a document that is not taken in.** -/
theorem not_addSource_eastern : (start "aip").addSource eastern = .error .dateOutOfRange := by
  decide +kernel

end Census

end ArchiveCensus
