import ArchiveCensus.Index.Listing
import ArchiveCensus.Index.Lookup
import ArchiveCensus.Index.Scan
import ArchiveCensus.Index.Status
import ArchiveCensus.Proofs.Index.Call

/-!
# Proofs/Index/Sparse — an index that answers with the fields asked for

A query may name the fields of a document that it asks for.  The index then leaves out all others,
and nothing else of its answer changes.  Here an index is compared with the one that answers as it
does but with whole documents: step by step, a call over the one comes to what a call over the other
comes to, where the documents have lost some of their fields on the way.

* `Sparse` — the index that leaves out what is not asked for.
* `Mirrors` — a computation over it comes to the same, up to what became of the value.
* `Guard.mirrors_fetch` — a page has the same hits, with the fields asked for.
* `Listing.mirrors_list`, `Scan.mirrors_run` — a listing comes to the same, and so does a scan whose
  consumer reads no other fields.
-/

namespace ArchiveCensus

variable {σ α β γ δ : Type}

/-! ## Documents with some of their fields -/

namespace Json

/-- A map with some of its keys only. -/
def only (keys : List String) : Json → Json
  | .obj entries => .obj (entries.filter fun entry => keys.contains entry.1)
  | j => j

/-- A map with the value of a key changed. -/
def modify (key : String) (f : Json → Json) : Json → Json
  | .obj entries => .obj (entries.map fun entry =>
      (entry.1, if entry.1 = key then f entry.2 else entry.2))
  | j => j

/-- A list with each of its items changed. -/
def modifyItems (f : Json → Json) : Json → Json
  | .arr items => .arr (items.map f)
  | j => j

variable {key key' : String} {keys : List String} {f : Json → Json}

theorem entries_only (keys : List String) (j : Json) :
    (j.only keys).entries = j.entries.filter fun entry => keys.contains entry.1 := by
  cases j <;> rfl

theorem valueOf_filter (h : key ∈ keys) : ∀ entries : List (String × Json),
    valueOf key (entries.filter fun entry => keys.contains entry.1) = valueOf key entries
  | [] => rfl
  | (k, v) :: rest => by
    rw [List.filter_cons, valueOf]
    by_cases hk : k = key
    · subst hk
      rw [if_pos (List.contains_iff_mem.2 h), valueOf, if_pos rfl, if_pos rfl]
    · rw [if_neg hk]
      split
      · rw [valueOf, if_neg hk, valueOf_filter h rest]
      · exact valueOf_filter h rest

/-- **What is kept is read as before.** -/
theorem get_only (h : key ∈ keys) (j : Json) : (j.only keys).get key = j.get key := by
  rw [get, entries_only, valueOf_filter h, get]

theorem valueOf_modify (hf : f .null = .null) : ∀ entries : List (String × Json),
    valueOf key' (entries.map fun entry =>
      (entry.1, if entry.1 = key then f entry.2 else entry.2)) =
      if key' = key then f (valueOf key' entries) else valueOf key' entries
  | [] => by
    rw [List.map_nil, valueOf, hf, ite_self]
  | (k, v) :: rest => by
    rw [List.map_cons, valueOf, valueOf]
    by_cases hk : k = key'
    · rw [if_pos hk, if_pos hk, hk]
    · rw [if_neg hk, if_neg hk, valueOf_modify hf rest]

/-- What is changed is read changed, and all else as before. -/
theorem get_modify (hf : f .null = .null) (key key' : String) (j : Json) :
    (j.modify key f).get key' = if key' = key then f (j.get key') else j.get key' := by
  cases j with
  | obj entries => exact valueOf_modify hf entries
  | _ => exact (valueOf_modify hf []).trans rfl

end Json

/-- A hit with some of the fields of its document. -/
def Hit.only (keys : List String) (h : Hit) : Hit :=
  { h with source := h.source.filter fun entry => keys.contains entry.1 }

theorem Hit.document_only (keys : List String) (h : Hit) :
    (h.only keys).document = h.document.only keys := rfl

/-! ## The answers of a sparse index -/

/-- The fields that the body of a request asks for; none where it asks for all. -/
def Json.fieldsAsked (body : Json) : Option (List String) :=
  match body.get "_source" with
  | .arr names => some (names.filterMap fun name => match name with
      | .str s => some s
      | _ => none)
  | _ => none

/-- The document of a hit with some of the fields of what was found. -/
def Json.sparseHit (fields : List String) (j : Json) : Json := j.modify "_source" (only fields)

/-- The document of a page with some of the fields of what was found. -/
def Json.sparsePage (fields : List String) (j : Json) : Json :=
  j.modify "hits" fun found => found.modify "hits" (modifyItems (sparseHit fields))

theorem Hit.ofJson_sparseHit (fields : List String) (j : Json) :
    ofJson (j.sparseHit fields) = (ofJson j).only fields := by
  have hnull : Json.only fields .null = .null := rfl
  simp only [ofJson, Json.sparseHit, Json.get_modify hnull, only, ← Json.entries_only]
  simp

/-- A page with some of the fields of its documents. -/
def Page.only (fields : List String) (p : Page) : Page :=
  { p with hits := p.hits.map (Hit.only fields) }

theorem Page.ofJson_sparsePage (fields : List String) (j : Json) :
    ofJson (j.sparsePage fields) = (ofJson j).only fields := by
  have hfound : (j.sparsePage fields).get "hits" =
      (j.get "hits").modify "hits" (Json.modifyItems (Json.sparseHit fields)) :=
    (Json.get_modify rfl _ _ j).trans (if_pos rfl)
  have hhits : ((j.sparsePage fields).get "hits").get "hits" =
      Json.modifyItems (Json.sparseHit fields) ((j.get "hits").get "hits") := by
    rw [hfound]
    exact (Json.get_modify rfl _ _ _).trans (if_pos rfl)
  have htotal : ((j.sparsePage fields).get "hits").get "total" = (j.get "hits").get "total" := by
    rw [hfound]
    exact (Json.get_modify rfl _ _ _).trans (if_neg (by decide))
  have htook : (j.sparsePage fields).get "took" = j.get "took" :=
    (Json.get_modify rfl _ _ j).trans (if_neg (by decide))
  simp only [ofJson, only, hhits, htotal, htook]
  cases (j.get "hits").get "hits" with
  | arr hits =>
    simp only [Json.modifyItems, List.map_map]
    congr 2
    funext h
    exact Hit.ofJson_sparseHit fields h
  | _ => rfl

/-- The document that is answered where these fields are asked for; all where none are named. -/
def Json.sparse (fields : Option (List String)) (j : Json) : Json :=
  fields.elim j fun fields => j.sparsePage fields

/-- The page that is read where these fields are asked for. -/
def Page.sparse (fields : Option (List String)) (p : Page) : Page :=
  fields.elim p fun fields => p.only fields

theorem Page.ofJson_sparse (fields : Option (List String)) (j : Json) :
    ofJson (j.sparse fields) = (ofJson j).sparse fields := by
  cases fields with
  | none => rfl
  | some fields => exact ofJson_sparsePage fields j

/-- A map stays a map. -/
theorem Json.exists_sparse_obj (fields : Option (List String)) (entries : List (String × Json)) :
    ∃ entries', (Json.obj entries).sparse fields = .obj entries' := by
  cases fields with
  | none => exact ⟨entries, rfl⟩
  | some fields => exact ⟨_, rfl⟩

/-- The answer where these fields are asked for. -/
def Answer.sparse (fields : Option (List String)) : Answer → Answer
  | .response status text document => .response status text (document.map (Json.sparse fields))
  | .unreachable reason message => .unreachable reason message

/-- The fields that a request asks for. -/
def Request.fieldsAsked (r : Request) : Option (List String) := r.body.bind Json.fieldsAsked

/-- An index that leaves out the fields of documents that are not asked for, and is otherwise the
one it is made of. -/
structure Sparse (σ : Type) where
  whole : σ

instance [Responder σ] : Responder (Sparse σ) where
  exchange s r :=
    let (exchange, whole) := Responder.exchange s.whole r
    ({ exchange with answer := exchange.answer.sparse r.fieldsAsked }, ⟨whole⟩)

/-- A channel, to the index that leaves out fields. -/
def Channel.sparse (ch : Channel σ) : Channel (Sparse σ) :=
  { responder := ⟨ch.responder⟩
    clock := ch.clock
    cancelled := ch.cancelled
    sent := ch.sent
    warnings := ch.warnings }

/-- A request passes alike, and its answer has the fields asked for. -/
theorem Channel.send_sparse [Responder σ] (ch : Channel σ) (r : Request) :
    ch.sparse.send r =
      ((ch.send r).1.map (Answer.sparse r.fieldsAsked), (ch.send r).2.sparse) := by
  have hexchange : Responder.exchange ch.sparse.responder r =
      ({ (Responder.exchange ch.responder r).1 with
          answer := (Responder.exchange ch.responder r).1.answer.sparse r.fieldsAsked },
        (⟨(Responder.exchange ch.responder r).2⟩ : Sparse σ)) := rfl
  rw [send, send, hexchange]
  dsimp only
  cases Defect.orTooLarge (Responder.exchange ch.responder r).1.elapsed.asDouble? <;> rfl

/-! ## Computations over a sparse index -/

/-- A computation over the sparse index mirrors one over the index: from the same channel it comes
to the same channel, and its value is what `f` makes of the other value. -/
def Mirrors (f : α → β) (x : StateM (Channel σ) α) (y : StateM (Channel (Sparse σ)) β) : Prop :=
  ∀ ch : Channel σ, y.run ch.sparse = (f (x.run ch).1, (x.run ch).2.sparse)

theorem Mirrors.bind {f : α → β} {g : γ → δ} {x : StateM (Channel σ) α}
    {y : StateM (Channel (Sparse σ)) β} {k : α → StateM (Channel σ) γ}
    {l : β → StateM (Channel (Sparse σ)) δ} (hx : Mirrors f x y)
    (hk : ∀ a, Mirrors g (k a) (l (f a))) : Mirrors g (x >>= k) (y >>= l) := by
  intro ch
  rw [Call.run_state_bind, Call.run_state_bind, hx ch]
  exact hk _ _

namespace Call

/-- A call mirrors a call: it has the same faults, and `f` makes its values of the other ones. -/
def Mirrors (f : α → β) (x : Call σ α) (y : Call (Sparse σ) β) : Prop :=
  ArchiveCensus.Mirrors (Except.map f) x.run y.run

theorem mirrors_pure (f : α → β) (a : α) : Mirrors f (pure a : Call σ α) (pure (f a)) :=
  fun _ => rfl

theorem mirrors_throw (f : α → β) (e : Fault) : Mirrors f (throw e : Call σ α) (throw e) :=
  fun _ => rfl

/-- Calls that mirror each other come to the same if nothing is made of the value. -/
theorem Mirrors.run_eq {x : Call σ α} {y : Call (Sparse σ) α} (h : Mirrors id x y)
    (ch : Channel σ) : y.run.run ch.sparse = ((x.run.run ch).1, (x.run.run ch).2.sparse) := by
  refine (h ch).trans ?_
  cases (x.run.run ch).1 <;> rfl

/-- **A call after a call.** -/
theorem Mirrors.bind {f : α → β} {g : γ → δ} {x : Call σ α} {y : Call (Sparse σ) β}
    {k : α → Call σ γ} {l : β → Call (Sparse σ) δ} (hx : Mirrors f x y)
    (hk : ∀ a, Mirrors g (k a) (l (f a))) : Mirrors g (x >>= k) (y >>= l) := by
  intro ch
  have hrun := hx ch
  rw [run_bind, run_bind, hrun]
  obtain ⟨out, ch'⟩ := x.run.run ch
  cases out with
  | ok a => exact hk a ch'
  | error e => rfl

theorem mirrors_lift {f : α → β} {x : StateM (Channel σ) α} {y : StateM (Channel (Sparse σ)) β}
    (h : ArchiveCensus.Mirrors f x y) : Mirrors f (liftM x : Call σ α) (liftM y) := by
  intro ch
  change (Except.ok (y.run ch.sparse).1, (y.run ch.sparse).2) = _
  rw [h ch]
  rfl

/-- A computation that looks at the channel sees the same in both, but for the index. -/
theorem mirrors_get_bind {f : α → β} {k : Channel σ → Call σ α}
    {l : Channel (Sparse σ) → Call (Sparse σ) β} (h : ∀ ch, Mirrors f (k ch) (l ch.sparse)) :
    Mirrors f (get >>= k) (get >>= l) :=
  fun ch => h ch ch

/-- So does one that changes it. -/
theorem mirrors_modifyGet {f : α → β} {step : Channel σ → α × Channel σ}
    {step' : Channel (Sparse σ) → β × Channel (Sparse σ)}
    (h : ∀ ch, step' ch.sparse = (f (step ch).1, (step ch).2.sparse)) :
    Mirrors f (modifyGet step : Call σ α) (modifyGet step') :=
  mirrors_lift (x := modifyGet step) (y := modifyGet step') h

theorem mirrors_ofDefect : ∀ x : Except Defect α,
    Mirrors id (ofDefect x : Call σ α) (ofDefect x)
  | .ok a => mirrors_pure id a
  | .error d => mirrors_throw id (.defect d)

theorem mirrors_ofExcept : ∀ x : Except Fault α,
    Mirrors id (ofExcept x : Call σ α) (ofExcept x)
  | .ok a => mirrors_pure id a
  | .error f => mirrors_throw id f

theorem mirrors_now : Mirrors id (now : Call σ Binary64) now := fun _ => rfl

theorem mirrors_warn (w : Warning) : Mirrors id (warn w : Call σ Unit) (warn w) := fun _ => rfl

/-- What is sent is answered with the fields asked for. -/
theorem mirrors_send [Responder σ] (r : Request) :
    Mirrors (Answer.sparse r.fieldsAsked) (send r : Call σ Answer) (send r) :=
  (mirrors_modifyGet fun ch => ch.send_sparse r).bind fun out => by
    cases out with
    | ok answer => exact mirrors_pure _ answer
    | error d => exact mirrors_throw _ (.defect d)

end Call

/-! ## Pages -/

namespace Client

/-- An answer is read alike, up to its document. -/
theorem mirrors_read (url : String) (fields : Option (List String)) (answer : Answer) :
    Call.Mirrors (Json.sparse fields) (read url answer : Call σ Json)
      (read url (answer.sparse fields)) := by
  cases answer with
  | unreachable reason message =>
    exact (Call.mirrors_warn _).bind fun _ => Call.mirrors_throw _ _
  | response status text document =>
    rw [Answer.sparse]
    cases hgood : isGood status with
    | false =>
      simp only [read, hgood, Bool.not_false, if_true]
      exact fun _ => rfl
    | true =>
      simp only [read, hgood, Bool.not_true, Bool.false_eq_true, if_false]
      cases document with
      | error message => exact fun _ => rfl
      | ok j =>
        cases j with
        | obj entries =>
          obtain ⟨entries', hsparse⟩ := Json.exists_sparse_obj fields entries
          simp only [Except.map, hsparse]
          rw [← hsparse]
          exact Call.mirrors_pure _ _
        | _ => cases fields <;> exact fun _ => rfl

variable [Responder σ] (c : Client)

theorem mirrors_request (path : String) (body : Option Json) (timeout : Option Number) :
    Call.Mirrors (Json.sparse (body.bind Json.fieldsAsked))
      (c.request path body timeout : Call σ Json) (c.request path body timeout) := by
  unfold request
  cases c.enabled with
  | false => exact Call.mirrors_throw _ _
  | true => exact (Call.mirrors_send _).bind fun answer => mirrors_read _ _ answer

theorem mirrors_search (index : String) (query : Json) (timeout : Option Number) :
    Call.Mirrors (Page.sparse query.fieldsAsked)
      (c.search index query timeout : Call σ Page) (c.search index query timeout) := by
  refine (c.mirrors_request _ _ _).bind fun j => ?_
  have hpage := Page.ofJson_sparse query.fieldsAsked j
  rw [Option.bind_some, hpage]
  exact Call.mirrors_pure _ _

end Client

namespace Guard

theorem mirrors_check (g : Guard) : Call.Mirrors id (g.check : Call σ Unit) g.check :=
  Call.mirrors_get_bind fun ch => by
    simp only [Channel.sparse]
    cases g.stop? (.double ch.clock) ch.cancelled with
    | none => exact Call.mirrors_pure id ()
    | some cause => exact Call.mirrors_throw id (.scanCancelled cause)

variable [Responder σ] {fields : List String} {query : Json}

/-- **A page that is fetched has the same hits, with the fields asked for.** -/
theorem mirrors_fetch (h : query.fieldsAsked = some fields) (g : Guard) (c : Client)
    (index : String) (timeout : Number) :
    Call.Mirrors (List.map (Hit.only fields)) (g.fetch c index query timeout : Call σ (List Hit))
      (g.fetch c index query timeout) := by
  have hsearch := fun t => c.mirrors_search (σ := σ) index query t
  rw [h] at hsearch
  exact g.mirrors_check.bind fun _ => Call.mirrors_now.bind fun _ =>
    (Call.mirrors_ofDefect _).bind fun t => (hsearch (some t)).bind fun page =>
      g.mirrors_check.bind fun _ => Call.mirrors_pure _ page.hits

end Guard

/-! ## Listings -/

namespace Listing

/-- The fields of a document that a listing asks for. -/
def fields : List String := ["AIPUUID", "sipName"]

theorem fieldsAsked_query (p : Plan) (after : List Json) :
    (p.query after).fieldsAsked = some fields := rfl

/-- What a listing is answered with are the pages with these fields. -/
theorem ofJson_sparse_query (p : Plan) (after : List Json) (page : Json) :
    Page.ofJson (page.sparse (p.query after).fieldsAsked) = (Page.ofJson page).only fields :=
  Page.ofJson_sparse _ page

theorem itemOf_only (h : Hit) : itemOf (h.only fields) = itemOf h := by
  rw [itemOf, itemOf, Hit.document_only, Json.get_only (by decide), Json.get_only (by decide)]

/-- A page adds the same packages. -/
theorem collect_only (limit : Int) : ∀ (hits : List Hit) (items : List Item),
    collect limit (hits.map (Hit.only fields)) items = collect limit hits items
  | [], _ => rfl
  | h :: rest, items => by
    rw [List.map_cons, collect, collect, itemOf_only]
    simp only [collect_only limit rest]

variable [Responder σ]

theorem mirrors_advance (p : Plan) : ∀ (n : Nat) (after : List Json) (done : Progress),
    Call.Mirrors id (advance p n after done : Call σ Progress) (advance p n after done)
  | 0, _, done => Call.mirrors_pure id done
  | n + 1, after, done => by
    unfold advance
    split
    · exact Call.mirrors_pure id done
    · refine (Guard.mirrors_fetch (fieldsAsked_query p after) _ _ _ _).bind fun hits => ?_
      rw [List.getLast?_map, collect_only]
      cases hits.getLast? with
      | none => exact Call.mirrors_pure id _
      | some last =>
        have hsort : (last.only fields).sort = last.sort := rfl
        simp only [Option.map_some, hsort]
        split
        · exact Call.mirrors_pure id _
        · exact mirrors_advance p n _ _

/-- **A listing comes to the same** where only the fields asked for are answered. -/
theorem mirrors_list (c : Client) (w : Wish) (limits : Limits) (guard : Guard) (timeout : Number) :
    Call.Mirrors id (list c w limits guard timeout : Call σ Listing)
      (list c w limits guard timeout) :=
  (Call.mirrors_ofExcept _).bind fun _ => (mirrors_advance _ _ _ _).bind fun _ =>
    Call.mirrors_pure id _

end Listing

/-! ## Scans -/

/-- A consumer reads only these fields of documents. -/
def Consumer.Reads (fields : List String) (c : Consumer β) : Prop :=
  ∀ b h, c.take b (h.only fields) = c.take b h

/-- Such a consumer makes the same of hits with these fields. -/
theorem Consumer.Reads.feed_only {fields : List String} {c : Consumer β} (h : c.Reads fields) :
    ∀ (hits : List Hit) (b : β), c.feed (hits.map (Hit.only fields)) b = c.feed hits b
  | [], _ => rfl
  | hit :: rest, b => by
    rw [List.map_cons, feed, feed, h b hit]
    simp only [h.feed_only rest]

namespace Scan

theorem fieldsAsked_query (s : Scan) (after : List Json) :
    (s.query after).fieldsAsked = some fields := rfl

/-- What a scan is answered with are the pages with these fields. -/
theorem ofJson_sparse_query (s : Scan) (after : List Json) (page : Json) :
    Page.ofJson (page.sparse (s.query after).fieldsAsked) = (Page.ofJson page).only fields :=
  Page.ofJson_sparse _ page

variable [Responder σ] (s : Scan) {c : Consumer β}

theorem mirrors_advance (h : c.Reads fields) : ∀ (n : Nat) (after : List Json) (b : β),
    Mirrors id (s.advance c n after b : StateM (Channel σ) _) (s.advance c n after b)
  | 0, _, _ => fun _ => rfl
  | n + 1, after, b => by
    unfold advance
    have hfetch := Guard.mirrors_fetch (σ := σ) (s.fieldsAsked_query after) s.guard s.client s.index
      s.timeout
    refine Mirrors.bind hfetch fun out => ?_
    cases out with
    | error fault => exact fun _ => rfl
    | ok hits =>
      simp only [Except.map, List.getLast?_map, h.feed_only]
      cases hits.getLast? with
      | none => exact fun _ => rfl
      | some last =>
        have hsort : (last.only fields).sort = last.sort := rfl
        simp only [Option.map_some, hsort]
        obtain ⟨b', ending⟩ := c.feed hits b
        cases ending with
        | some ending => exact fun _ => rfl
        | none =>
          dsimp only
          split
          · exact fun _ => rfl
          · exact mirrors_advance h n _ _

/-- **A scan comes to the same**, if its consumer reads no other fields than the scan asks for. -/
theorem mirrors_run (h : c.Reads fields) (start : β) :
    Mirrors id (s.run c start : StateM (Channel σ) _) (s.run c start) := by
  unfold run
  split
  · exact s.mirrors_advance h _ _ _
  · exact fun _ => rfl

end Scan

/-! ## What asks for whole documents -/

section

variable [Responder σ] (c : Client)

theorem Lookup.mirrors_find (transferUuid : String) (limit : Int) :
    Call.Mirrors id (find c transferUuid limit : Call σ Lookup) (find c transferUuid limit) := by
  unfold find
  dsimp only
  split
  · exact fun _ => rfl
  · exact (c.mirrors_search _ _ _).bind fun _ => Call.mirrors_pure id _

theorem IndexStatus.mirrors_ask :
    Call.Mirrors id (ask c : Call σ IndexStatus) (ask c) :=
  Call.mirrors_now.bind fun _ => (c.mirrors_request _ _ _).bind fun _ =>
    Call.mirrors_now.bind fun _ => (Call.mirrors_ofDefect _).bind fun _ =>
      (c.mirrors_request _ _ _).bind fun _ => (c.mirrors_request _ _ _).bind fun _ =>
        Call.mirrors_pure id _

end

end ArchiveCensus
