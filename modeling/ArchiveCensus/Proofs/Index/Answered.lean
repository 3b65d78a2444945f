import ArchiveCensus.Index.Script
import ArchiveCensus.Proofs.Census.Intake
import ArchiveCensus.Proofs.Index.Turn

/-!
# Proofs/Index/Answered — every answer is a page, or the index is unavailable

A search looks at the status of an answer, then at the document in it, and then at the parts of that
document, whatever they are.  Nothing past the document is refused: a part of another kind reads as
none.  Only an identifier that is not a text has to be written out, and that takes whole numbers
that can be written.

* `Json.isWritable` — every whole number in a document can be written.
* `Hit.Reads` and `Page.Reads` — what a hit and a page have of their documents.
* `Answer.SettledBy` — what a search makes of an answer; `Client.search_settled` is for any index.
-/

namespace ArchiveCensus

/-! ## Documents that can be written -/

namespace Json

mutual

/-- Whether no whole number in a document has more digits than can be written. -/
def isWritable : Json → Bool
  | .num (.whole z) => (Binary64.digitsOf z.natAbs).length ≤ Numeral.maxDigits
  | .arr items => itemsWritable items
  | .obj entries => entriesWritable entries
  | _ => true

/-- Whether some items can be written. -/
def itemsWritable : List Json → Bool
  | [] => true
  | j :: rest => isWritable j && itemsWritable rest

/-- Whether the values of some entries can be written. -/
def entriesWritable : List (String × Json) → Bool
  | [] => true
  | (_, j) :: rest => isWritable j && entriesWritable rest

end

/-- The items of a list; none of any other document. -/
def items : Json → List Json
  | .arr items => items
  | _ => []

theorem isWritable_of_mem : ∀ {items : List Json}, itemsWritable items = true → ∀ j ∈ items,
    j.isWritable = true
  | first :: rest, h, j, hj => by
    rw [itemsWritable, Bool.and_eq_true] at h
    obtain rfl | hrest := List.mem_cons.1 hj
    · exact h.1
    · exact isWritable_of_mem h.2 j hrest

theorem isWritable_valueOf (key : String) : ∀ {entries : List (String × Json)},
    entriesWritable entries = true → (valueOf key entries).isWritable = true
  | [], _ => rfl
  | (k, j) :: rest, h => by
    rw [entriesWritable, Bool.and_eq_true] at h
    rw [valueOf]
    split
    · exact h.1
    · exact isWritable_valueOf key h.2

/-- **The parts of a document that can be written can be written**: the values of its keys, -/
theorem isWritable_get {j : Json} (h : j.isWritable = true) (key : String) :
    (j.get key).isWritable = true := by
  cases j with
  | obj entries =>
    rw [isWritable] at h
    exact isWritable_valueOf key h
  | _ => exact isWritable_valueOf key (rfl : entriesWritable [] = true)

/-- and its items. -/
theorem isWritable_item {j item : Json} (h : j.isWritable = true) (hitem : item ∈ j.items) :
    item.isWritable = true := by
  cases j with
  | arr items =>
    rw [isWritable] at h
    exact isWritable_of_mem h item hitem
  | _ => exact absurd hitem List.not_mem_nil

/-- What a document is named by: nothing if it does not count as given, and else its text, which
there is if it can be written. -/
inductive IsNamed (j : Json) : String → Prop where
  | nothing (absent : j.isGiven = false) : IsNamed j ""
  | text (given : j.isGiven = true) (writable : j.isWritable = true) : IsNamed j j.plain

theorem isNamed_identifier {j : Json} (h : j.isWritable = true) : j.IsNamed j.identifier := by
  rw [identifier]
  cases hgiven : j.isGiven with
  | true => exact .text hgiven h
  | false => exact .nothing hgiven

/-- A document counts so many: the whole part of the finite number that it states, or of zero. -/
def Counts (j : Json) (n : Int) : Prop := (j.finiteNumber?.getD .zero).truncate = .ok n

/-- **Every document counts something**: its measure is finite, so that there is a whole part. -/
theorem counts_wholeMeasure (j : Json) : j.Counts j.wholeMeasure := by
  have hfinite := j.isFinite_measure
  rw [Counts, ← measure_eq, wholeMeasure]
  generalize j.measure = x at hfinite
  cases x with
  | finite s u => rfl
  | infinite | nan => cases hfinite

end Json

/-! ## Hits and pages -/

/-- What a hit has of its document. -/
structure Hit.Reads (h : Hit) (j : Json) : Prop where
  id : (j.get "_id").IsNamed h.id
  sort : h.sort = (j.get "sort").items
  source : h.source = (j.get "_source").entries
  index : (j.get "_index").IsNamed h.index
  score : h.score = (j.get "_score").finiteNumber?.getD .zero

/-- What a page has of its document: a hit for each that is listed, in order, and two counts.  The
total is stated as a number, or in a map. -/
structure Page.Reads (p : Page) (j : Json) : Prop where
  hits : List.Forall₂ Hit.Reads p.hits ((j.get "hits").get "hits").items
  tookMs : (j.get "took").Counts p.tookMs
  totalHits : (∀ entries, (j.get "hits").get "total" ≠ .obj entries) →
    ((j.get "hits").get "total").Counts p.totalHits
  totalHits_map : ∀ entries, (j.get "hits").get "total" = .obj entries →
    ((Json.obj entries).get "value").Counts p.totalHits

/-- A hit can be read from any document that can be written. -/
theorem Hit.reads_ofJson {j : Json} (h : j.isWritable = true) : (ofJson j).Reads j where
  id := Json.isNamed_identifier (Json.isWritable_get h "_id")
  sort := rfl
  source := rfl
  index := Json.isNamed_identifier (Json.isWritable_get h "_index")
  score := Json.measure_eq _

namespace Page

theorem hits_ofJson_items (j : Json) :
    (ofJson j).hits = ((j.get "hits").get "hits").items.map Hit.ofJson := by
  rw [ofJson]
  dsimp only
  cases (j.get "hits").get "hits" <;> rfl

/-- **A page can be read from any document that can be written.** -/
theorem reads_ofJson {j : Json} (h : j.isWritable = true) : (ofJson j).Reads j where
  hits := by
    have hlist := Json.isWritable_get (Json.isWritable_get h "hits") "hits"
    rw [hits_ofJson_items, List.forall₂_map_left_iff, List.forall₂_same]
    exact fun item hitem => Hit.reads_ofJson (Json.isWritable_item hlist hitem)
  tookMs := Json.counts_wholeMeasure _
  totalHits := fun hplain => by
    have htotal := Json.counts_wholeMeasure ((j.get "hits").get "total")
    rw [ofJson]
    dsimp only
    generalize (j.get "hits").get "total" = total at htotal hplain
    cases total with
    | obj entries => exact absurd rfl (hplain entries)
    | _ => exact htotal
  totalHits_map := fun entries hmap => by
    rw [ofJson]
    dsimp only
    rw [hmap]
    exact Json.counts_wholeMeasure _

/-- The hits have the sort values that are listed. -/
theorem Reads.map_sort {p : Page} {j : Json} (h : p.Reads j) : p.hits.map Hit.sort =
    ((j.get "hits").get "hits").items.map fun item => (item.get "sort").items := by
  have hsort : List.Forall₂ (fun h item => h.sort = (item.get "sort").items) p.hits
      ((j.get "hits").get "hits").items := h.hits.imp fun _ _ hreads => hreads.sort
  rw [← List.forall₂_eq_eq_eq, List.forall₂_map_left_iff, List.forall₂_map_right_iff]
  exact hsort

end Page

/-! ## Answers -/

/-- What a search makes of an answer.  There is a page exactly if the status is good and the document
is a map; the page is read from it.  All else is one fault, with the status exactly if that is not
good. -/
structure Answer.SettledBy (answer : Answer) (out : Except Fault Page) : Prop where
  page_iff : (∃ page, out = .ok page) ↔ ∃ status text entries,
    answer = .response status text (.ok (.obj entries)) ∧ 200 ≤ status ∧ status < 300
  reads : ∀ page status text document, out = .ok page →
    answer = .response status text (.ok document) → page.Reads document
  fault : ∀ f, out = .error f → ∃ message status?, f = .indexUnavailable message status? ∧
    ∀ status, status? = some status ↔
      ∃ text document, answer = .response status text document ∧ ¬ (200 ≤ status ∧ status < 300)

namespace Answer

variable {answer : Answer}

theorem isGood_iff {status : Int} : Client.isGood status = true ↔ 200 ≤ status ∧ status < 300 := by
  rw [Client.isGood, Bool.and_eq_true, decide_eq_true_iff, decide_eq_true_iff]

theorem refusal?_eq_some_iff {status : Int} : answer.refusal? = some status ↔
    ∃ text document, answer = .response status text document ∧ ¬ (200 ≤ status ∧ status < 300) := by
  cases answer with
  | unreachable reason message => simp [refusal?]
  | response status' text document =>
    rw [refusal?, ← isGood_iff]
    constructor
    · intro h
      split at h
      · cases h
      · next hbad =>
        cases h
        exact ⟨text, document, rfl, hbad⟩
    · rintro ⟨_, _, ⟨⟩, hbad⟩
      exact if_neg hbad

theorem settledBy_page {status : Int} {text : String} {entries : List (String × Json)}
    (hgood : 200 ≤ status ∧ status < 300) {page : Page} (hreads : page.Reads (.obj entries)) :
    SettledBy (.response status text (.ok (.obj entries))) (.ok page) where
  page_iff := ⟨fun _ => ⟨status, text, entries, rfl, hgood⟩, fun _ => ⟨page, rfl⟩⟩
  reads := by
    rintro _ _ _ _ ⟨⟩ ⟨⟩
    exact hreads
  fault := by rintro _ ⟨⟩

theorem Fails.settledBy (h : answer.Fails) (message : String) :
    answer.SettledBy (.error (.indexUnavailable message answer.refusal?)) where
  page_iff := by
    refine ⟨by rintro ⟨_, ⟨⟩⟩, ?_⟩
    rintro ⟨status, text, entries, hanswer, hgood⟩
    exact absurd (isGood_iff.2 hgood) (Bool.eq_false_iff.1 (h.not_isGood hanswer))
  reads := by rintro _ _ _ _ ⟨⟩
  fault := by
    rintro _ ⟨⟩
    exact ⟨message, answer.refusal?, rfl, fun _ => refusal?_eq_some_iff⟩

/-- A refusal comes to the fault with its status. -/
theorem SettledBy.of_refused {status : Int} {text : String} {document : Except String Json}
    {out : Except Fault Page} (h : SettledBy (.response status text document) out)
    (hbad : ¬ (200 ≤ status ∧ status < 300)) :
    ∃ message, out = .error (.indexUnavailable message (some status)) := by
  cases out with
  | ok page =>
    obtain ⟨_, _, _, ⟨⟩, hgood⟩ := h.page_iff.1 ⟨page, rfl⟩
    exact absurd hgood hbad
  | error f =>
    obtain ⟨message, status?, rfl, hstatus⟩ := h.fault f rfl
    exact ⟨message, by rw [(hstatus status).2 ⟨text, document, rfl, hbad⟩]⟩

end Answer

/-! ## Searches -/

section

variable {σ : Type} [Responder σ]

/-- **Every answer to a search is a page, or the index is unavailable**, whatever index is asked, for
what, and at what moment. -/
theorem Client.search_settled {c : Client} (hon : c.enabled = true) (index : String) (query : Json)
    (timeout : Option Number) {m : Moment σ} (hm : m.request = c.searchRequest index query timeout)
    (htimed : m.exchange.elapsed.asDouble?.isSome = true)
    (hwritable : ∀ status text document, m.exchange.answer = .response status text (.ok document) →
      document.isWritable = true) :
    m.exchange.answer.SettledBy
      ((c.search index query timeout : Call σ Page).run.run m.channel).1 := by
  obtain ⟨-, ⟨status, text, entries, hanswer, hgood, hrun⟩ | ⟨hfails, message, ws, hrun, -⟩⟩ |
    ⟨hendless, -⟩ := Client.run_search hon hm
  · rw [hrun, hanswer]
    have hreads : (Page.ofJson (.obj entries)).Reads (.obj entries) :=
      Page.reads_ofJson (hwritable status text _ hanswer)
    exact Answer.settledBy_page (Answer.isGood_iff.1 hgood) hreads
  · rw [hrun]
    exact hfails.settledBy message
  · rw [hendless] at htimed
    cases htimed

end

/-! ## Hits of several shapes -/

/-- Three hits: one with sort values, one that is a text, and one with a text to sort by. -/
def Answer.shapes : Answer :=
  .response 201 "" (.ok (.obj [("took", .str " 12 "), ("hits", .obj [
    ("total", .obj [("value", .int 3)]),
    ("hits", .arr [.obj [("_id", .int 7), ("sort", .arr [.str "a", .int 1])], .str "b",
      .obj [("sort", .str "c")]])])]))

namespace Client

/-- A client of an index nearby, -/
def nearby : Client := ⟨"http://index", 5⟩

/-- and a search of it that is answered like this. -/
def nearbyAsks (answer : Answer) : Moment Script where
  channel := .start ⟨[⟨answer, .double .zero, false⟩]⟩
  request := nearby.searchRequest "files" (.obj []) none

/-- Each shape is a hit, and a refusal is a fault with its status. -/
theorem search_settled_shapes :
    (∃ page, ((nearby.search "files" (.obj []) none : Call Script Page).run.run
        (nearbyAsks .shapes).channel).1 = .ok page ∧
      page.hits.map Hit.sort = [[.str "a", .int 1], [], []]) ∧
    ∃ message, ((nearby.search "files" (.obj []) none : Call Script Page).run.run
        (nearbyAsks (.response 404 "" (.error ""))).channel).1 =
      .error (.indexUnavailable message (some 404)) := by
  have hon : nearby.enabled = true := by decide
  have hwritable : ∀ status text document,
      Answer.shapes = .response status text (.ok document) → document.isWritable = true := by
    rintro _ _ _ ⟨⟩
    decide +kernel
  constructor
  · have hsettled := search_settled hon "files" (.obj []) none (m := nearbyAsks .shapes) rfl rfl
      hwritable
    obtain ⟨page, hpage⟩ := hsettled.page_iff.2 ⟨201, _, _, rfl, by decide, by decide⟩
    refine ⟨page, hpage, ?_⟩
    rw [(hsettled.reads page 201 _ _ hpage rfl).map_sort]
    rfl
  · have hsettled := search_settled hon "files" (.obj []) none
      (m := nearbyAsks (.response 404 "" (.error ""))) rfl rfl (by rintro _ _ _ ⟨⟩)
    exact hsettled.of_refused (by decide)

end Client

end ArchiveCensus
