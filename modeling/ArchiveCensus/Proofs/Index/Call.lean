import ArchiveCensus.Index.Guard
import ArchiveCensus.Proofs.Outcome

/-!
# Proofs/Index/Call — what a call comes to, whatever the channel is

An index that answers a request in the same way at every moment leaves nothing of the channel to
what a call comes to, except the time and the cancellation that a guard looks at.

* `Call.Settles` — every run of a call has a value of some sort, or is stopped by a fault of some.
* `Guard.Stops` — a guard has a moment at which it stops a scan with a fault.
* `Exchange.Gives` — an exchange is a good answer with some hits.
* `Guard.settles_fetch` — where the index gives hits, fetching comes to them unless the guard stops.
-/

namespace ArchiveCensus

variable {σ α β : Type}

/-! ## Calls -/

namespace Call

variable {stops stops' : Fault → Prop} {post : α → Prop} {next : β → Prop}

/-- Every run of a call has such a value, unless such a fault stops it. -/
def Settles (stops : Fault → Prop) (x : Call σ α) (post : α → Prop) : Prop :=
  ∀ ch, (∃ a, (x.run.run ch).1 = .ok a ∧ post a) ∨ ∃ f, (x.run.run ch).1 = .error f ∧ stops f

theorem settles_pure {a : α} (h : post a) : Settles stops (pure a : Call σ α) post :=
  fun _ => .inl ⟨a, rfl, h⟩

theorem settles_now : Settles stops (now : Call σ Binary64) fun _ => True :=
  fun ch => .inl ⟨ch.clock, rfl, trivial⟩

theorem run_bind (x : Call σ α) (f : α → Call σ β) (ch : Channel σ) :
    (x >>= f).run.run ch =
      match x.run.run ch with
      | (.ok a, ch') => (f a).run.run ch'
      | (.error e, ch') => (.error e, ch') := by
  rw [ExceptT.run_bind, StateT.run_bind]
  obtain ⟨out, ch'⟩ := x.run.run ch
  cases out <;> rfl

/-- A call whose value is handed on. -/
theorem run_bind_pure (x : Call σ α) (f : α → β) (ch : Channel σ) :
    (x >>= fun a => pure (f a)).run.run ch = ((x.run.run ch).1.map f, (x.run.run ch).2) := by
  rw [run_bind]
  obtain ⟨_ | a, ch'⟩ := x.run.run ch <;> rfl

/-- A call goes on after a value. -/
theorem run_bind_of_ok {x : Call σ α} {a : α} {ch : Channel σ} (h : (x.run.run ch).1 = .ok a)
    (f : α → Call σ β) : (x >>= f).run.run ch = (f a).run.run (x.run.run ch).2 := by
  have hrun : x.run.run ch = (.ok a, (x.run.run ch).2) := Prod.ext h rfl
  rw [run_bind, hrun]

theorem run_state_bind (m : StateM (Channel σ) α) (f : α → StateM (Channel σ) β)
    (ch : Channel σ) : (m >>= f).run ch = (f (m.run ch).1).run (m.run ch).2 := rfl

theorem run_liftM_bind (m : StateM (Channel σ) α) (f : α → Call σ β) (ch : Channel σ) :
    ((liftM m : Call σ α) >>= f).run.run ch = (f (m.run ch).1).run.run (m.run ch).2 := rfl

theorem run_get_bind (f : Channel σ → Call σ α) (ch : Channel σ) :
    (get >>= f : Call σ α).run.run ch = (f ch).run.run ch := rfl

theorem run_modifyGet_bind (h : Channel σ → α × Channel σ) (f : α → Call σ β) (ch : Channel σ) :
    (modifyGet h >>= f : Call σ β).run.run ch = (f (h ch).1).run.run (h ch).2 := rfl

/-- **A call after a call**: a fault stops both, and a value goes on. -/
theorem Settles.bind {x : Call σ α} {f : α → Call σ β} (hx : Settles stops x post)
    (hf : ∀ a, post a → Settles stops (f a) next) : Settles stops (x >>= f) next := by
  intro ch
  have h := hx ch
  rw [run_bind]
  generalize x.run.run ch = run at *
  obtain ⟨out, ch'⟩ := run
  obtain ⟨a, rfl, hpost⟩ | ⟨e, rfl, hstop⟩ := h
  · exact hf a hpost ch'
  · exact .inr ⟨e, rfl, hstop⟩

theorem Settles.mono {x : Call σ α} {post' : α → Prop} (h : Settles stops x post)
    (hstops : ∀ f, stops f → stops' f) (hpost : ∀ a, post a → post' a) :
    Settles stops' x post' := by
  intro ch
  obtain ⟨a, ha, h⟩ | ⟨f, hf, h⟩ := h ch
  · exact .inl ⟨a, ha, hpost a h⟩
  · exact .inr ⟨f, hf, hstops f h⟩

end Call

/-! ## Guards -/

namespace Guard

/-- A guard has a moment at which it stops a scan with this fault. -/
def Stops (g : Guard) (f : Fault) : Prop :=
  ∃ now cancelled cause, g.stop? now cancelled = some cause ∧ f = .scanCancelled cause

/-- The deadline of a guard is no whole number beyond the doubles. -/
def Timed (g : Guard) : Prop := ∀ deadline, g.deadline = some deadline → deadline.asDouble?.isSome

theorem not_stops_free (f : Fault) : ¬ free.Stops f := by
  rintro ⟨now, cancelled, cause, h, -⟩
  cases h

theorem timed_free : free.Timed := by
  rintro _ ⟨⟩

theorem double_add? (x : Binary64) (n : Number) :
    (Number.double x).add? n = n.asDouble?.map fun y => .double (x.add y) := by
  cases n with
  | whole z =>
    simp only [Number.add?]
    cases (Number.whole z).asDouble? <;> rfl
  | double y => rfl

theorem sub?_double {n : Number} {y : Binary64} (h : n.asDouble? = some y) (x : Binary64) :
    n.sub? (.double x) = some (.double (y.sub x)) := by
  unfold Number.sub?
  split
  · contradiction
  · rw [h]
    rfl

/-- A guard for so many seconds as a double is started at any time. -/
theorem exists_start (now seconds : Binary64) (heedsCaller : Bool) :
    ∃ g, start (.double now) (some (.double seconds)) heedsCaller = .ok g := by
  unfold start
  split
  · exact ⟨_, rfl⟩
  · next s hs =>
    obtain ⟨hs, -⟩ := Option.filter_eq_some_iff.1 hs
    cases hs
    rw [double_add?]
    exact ⟨_, rfl⟩

/-- The deadline of a guard that is started is so many seconds after the time, as a double. -/
theorem deadline_of_start {now : Binary64} {seconds : Option Number} {heedsCaller : Bool}
    {g : Guard} (h : start (.double now) seconds heedsCaller = .ok g) :
    g.deadline = none ∨ ∃ s y, seconds = some s ∧ s.asDouble? = some y ∧
      g.deadline = some (.double (now.add y)) := by
  unfold start at h
  split at h
  · cases h
    exact .inl rfl
  · next s hs =>
    obtain ⟨deadline, hdeadline, h⟩ := Outcome.bind_eq_ok_iff.1 h
    cases h
    rw [double_add?] at hdeadline
    cases hy : s.asDouble? with
    | none =>
      rw [hy] at hdeadline
      cases hdeadline
    | some y =>
      rw [hy] at hdeadline
      cases hdeadline
      exact .inr ⟨s, y, (Option.filter_eq_some_iff.1 hs).1, hy, rfl⟩

/-- The guards that are made are timed, since the time is a double. -/
theorem timed_of_start {now : Binary64} {seconds : Option Number} {heedsCaller : Bool} {g : Guard}
    (h : start (.double now) seconds heedsCaller = .ok g) : g.Timed := by
  intro deadline hdeadline
  obtain hnone | ⟨s, y, -, -, hsome⟩ := deadline_of_start h
  · rw [hnone] at hdeadline
    cases hdeadline
  · rw [hsome] at hdeadline
    cases hdeadline
    rfl

/-- A timed guard always has a time left for a request. -/
theorem Timed.exists_timeout {g : Guard} (h : g.Timed) (now : Binary64) (default : Number) :
    ∃ t, g.timeout (.double now) default = .ok t := by
  unfold timeout
  split
  · exact ⟨_, rfl⟩
  · rename_i deadline hdeadline
    obtain ⟨x, hx⟩ := Option.isSome_iff_exists.1 (h deadline hdeadline)
    rw [sub?_double hx]
    exact ⟨_, rfl⟩

theorem settles_check (g : Guard) :
    Call.Settles g.Stops (g.check : Call σ Unit) fun _ => True := by
  intro ch
  rw [check, Call.run_get_bind]
  cases hstop : g.stop? (.double ch.clock) ch.cancelled with
  | none => exact .inl ⟨(), rfl, trivial⟩
  | some cause => exact .inr ⟨_, rfl, _, _, _, hstop, rfl⟩

end Guard

/-! ## Answers -/

/-- An exchange is a good answer with these hits, in a time that can be counted. -/
structure Exchange.Gives (e : Exchange) (hits : List Hit) : Prop where
  answer : ∃ status text entries, e.answer = .response status text (.ok (.obj entries)) ∧
    Client.isGood status = true ∧ (Page.ofJson (.obj entries)).hits = hits
  elapsed : e.elapsed.asDouble?.isSome = true

section

variable [Responder σ] {stops : Fault → Prop} {c : Client} {hits : List Hit}

theorem Call.settles_send {r : Request} (h : ∀ s : σ, (Responder.exchange s r).1.Gives hits) :
    Settles stops (send r : Call σ Answer) fun answer => ∃ status text entries,
      answer = .response status text (.ok (.obj entries)) ∧ Client.isGood status = true ∧
        (Page.ofJson (.obj entries)).hits = hits := by
  intro ch
  obtain ⟨hanswer, helapsed⟩ := h ch.responder
  obtain ⟨seconds, hseconds⟩ := Option.isSome_iff_exists.1 helapsed
  have hsend : (ch.send r).1 = .ok (Responder.exchange ch.responder r).1.answer := by
    simp [Channel.send, hseconds, Defect.orTooLarge]
  rw [send, run_modifyGet_bind, hsend]
  exact .inl ⟨_, rfl, hanswer⟩

/-- A good answer is read as the page in it. -/
theorem Client.settles_search {index : String} {query : Json} {timeout : Number}
    (hc : c.enabled = true)
    (h : ∀ s : σ, (Responder.exchange s
      ⟨c.endpoint ++ searchPath index, timeout, some query⟩).1.Gives hits) :
    Call.Settles stops (c.search index query (some timeout) : Call σ Page) (·.hits = hits) := by
  have hrequest : Call.Settles stops
      (c.request (searchPath index) (some query) (some timeout) : Call σ Json)
      fun j => (Page.ofJson j).hits = hits := by
    unfold request
    simp only [hc, Bool.not_true, Bool.false_eq_true, if_false, Option.getD_some]
    refine (Call.settles_send h).bind ?_
    rintro _ ⟨status, text, entries, rfl, hgood, hhits⟩
    unfold read
    simp only [hgood, Bool.not_true, Bool.false_eq_true, if_false]
    exact Call.settles_pure hhits
  exact hrequest.bind fun j hj => Call.settles_pure hj

/-- **Where the index gives hits, fetching comes to them unless the guard stops.** -/
theorem Guard.settles_fetch {g : Guard} {index : String} {query : Json} {timeout : Number}
    (hc : c.enabled = true) (hg : g.Timed)
    (h : ∀ (s : σ) (timeout : Number), (Responder.exchange s
      ⟨c.endpoint ++ Client.searchPath index, timeout, some query⟩).1.Gives hits) :
    Call.Settles g.Stops (g.fetch c index query timeout : Call σ (List Hit)) (· = hits) := by
  unfold fetch
  refine g.settles_check.bind fun _ _ => ?_
  refine Call.settles_now.bind fun now _ => ?_
  obtain ⟨t, ht⟩ := hg.exists_timeout now timeout
  have htimeout : Call.Settles g.Stops (Call.ofDefect (g.timeout (.double now) timeout) : Call σ _)
      fun _ => True := by
    rw [ht]
    exact Call.settles_pure trivial
  refine htimeout.bind fun t _ => ?_
  refine (Client.settles_search hc fun s => h s t).bind fun page hpage => ?_
  exact g.settles_check.bind fun _ _ => Call.settles_pure hpage

end

end ArchiveCensus
