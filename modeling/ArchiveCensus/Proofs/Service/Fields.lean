import ArchiveCensus.Service.Basic
import ArchiveCensus.Proofs.Index.Sparse

/-!
# Proofs/Service/Fields — the fields asked for are all that is read

A scan and a listing ask for some fields of the documents only.  What is read of a document is among
them, so nothing is missing where the index leaves out all others: the service gives the same
answers as over an index with whole documents.

* `IndexedFile.ofSource_only` — the record of a document is made of the fields that a scan asks for.
* `Settings.mirrors_act` — so every operation comes to the same.
* `fields_suffice` — what this says of records, reports and listings.
-/

namespace ArchiveCensus

variable {σ : Type}

/-- **The record of a document is made of the fields that a scan asks for.** -/
theorem IndexedFile.ofSource_only (source : Json) :
    ofSource (source.only Scan.fields) = ofSource source := by
  simp (disch := decide) only [ofSource, Json.get_only]

namespace Census

theorem addSource_only (c : Census) (source : Json) :
    c.addSource (source.only Scan.fields) = c.addSource source := by
  rw [addSource, addSource, IndexedFile.ofSource_only]

theorem addSources_only : ∀ (sources : List Json) (c : Census),
    c.addSources (sources.map (Json.only Scan.fields)) = c.addSources sources
  | [], _ => rfl
  | source :: rest, c => by
    rw [addSources, addSources, List.map_cons, List.foldlM_cons, List.foldlM_cons, addSource_only]
    congr 1
    funext c'
    exact addSources_only rest c'

/-- A census reads no other fields. -/
theorem reads_census : Settings.census.Reads Scan.fields := fun c h =>
  congrArg (Except.mapError Fault.defect) (c.addSource_only h.document)

end Census

namespace Settings

variable (c : Settings)

theorem mirrors_guard (heedsCaller : Bool) :
    Call.Mirrors id (c.guard heedsCaller : Call σ Guard) (c.guard heedsCaller) :=
  Call.mirrors_now.bind fun _ => Call.mirrors_ofDefect _

variable [Responder σ]

theorem mirrors_report (w : Scan.Wish) (guard : Guard) :
    Call.Mirrors id (c.report w guard : Call σ Report) (c.report w guard) := by
  refine (Call.mirrors_ofExcept _).bind fun scan => ?_
  refine (Call.mirrors_lift (scan.mirrors_run Census.reads_census _)).bind fun out => ?_
  obtain ⟨taken, ending⟩ := out
  cases ending with
  | failed fault => exact Call.mirrors_throw id fault
  | exhausted | taken => exact Call.mirrors_ofDefect taken.report

/-- **Every operation comes to the same** where the index leaves out what is not asked for. -/
theorem mirrors_act (heedsCaller : Bool) : ∀ op : Operation,
    Call.Mirrors id (c.act heedsCaller op : Call σ Outcome) (c.act heedsCaller op)
  | .list _ => (c.mirrors_guard heedsCaller).bind fun _ =>
      (Listing.mirrors_list _ _ _ _ _).bind fun _ => Call.mirrors_pure id _
  | .report w => (c.mirrors_guard heedsCaller).bind fun guard =>
      (c.mirrors_report w guard).bind fun _ => Call.mirrors_pure id _
  | .lookup _ _ => (Lookup.mirrors_find _ _ _).bind fun _ => Call.mirrors_pure id _
  | .status => (IndexStatus.mirrors_ask _).bind fun _ => Call.mirrors_pure id _

end Settings

/-- **The fields asked for suffice.**  A document has the same record if it has lost all fields that
a scan does not ask for, so the same report is made of such documents, or it fails alike.  The
sparse index answers listings and scans with the documents of each page less the fields that they do
not ask for; and a listing over it is the same, and so is what comes of any operation. -/
theorem fields_suffice :
    (∀ source, IndexedFile.ofSource (source.only Scan.fields) = IndexedFile.ofSource source) ∧
    (∀ aipUuid sources,
      ((Census.start aipUuid).addSources (sources.map (Json.only Scan.fields)) >>= Census.report) =
        ((Census.start aipUuid).addSources sources >>= Census.report)) ∧
    (∀ (p : Listing.Plan) (after : List Json) (page : Json),
      Page.ofJson (page.sparse (p.query after).fieldsAsked) =
        (Page.ofJson page).only Listing.fields) ∧
    (∀ (s : Scan) (after : List Json) (page : Json),
      Page.ofJson (page.sparse (s.query after).fieldsAsked) =
        (Page.ofJson page).only Scan.fields) ∧
    ∀ {σ : Type} [Responder σ] (ch : Channel σ),
      (∀ (c : Client) (w : Listing.Wish) (limits : Limits) (guard : Guard) (timeout : Number),
        ((Listing.list c w limits guard timeout : Call (Sparse σ) Listing).run.run ch.sparse).1 =
          ((Listing.list c w limits guard timeout : Call σ Listing).run.run ch).1) ∧
      ∀ (c : Settings) (heedsCaller : Bool) (op : Operation),
        ((c.act heedsCaller op : Call (Sparse σ) Outcome).run.run ch.sparse).1 =
          ((c.act heedsCaller op : Call σ Outcome).run.run ch).1 := by
  refine ⟨IndexedFile.ofSource_only, fun aipUuid sources => ?_, Listing.ofJson_sparse_query,
    Scan.ofJson_sparse_query, fun ch => ⟨fun c w limits guard timeout => ?_,
    fun c heedsCaller op => ?_⟩⟩
  · rw [Census.addSources_only]
  · rw [(Listing.mirrors_list c w limits guard timeout).run_eq]
  · rw [(c.mirrors_act heedsCaller op).run_eq]

end ArchiveCensus
