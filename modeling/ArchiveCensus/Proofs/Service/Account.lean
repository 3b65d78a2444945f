import ArchiveCensus.Proofs.Census.Leaders
import ArchiveCensus.Proofs.Index.Cursor
import ArchiveCensus.Proofs.Service.Rejection

/-!
# Proofs/Service/Account — the probes account for every call

The service records a call where it ends, in a value or in a fault of any kind.  So the probes are an
account of the calls since they were last cleared: there is one for each operation that was called,
with the number of its calls and of its failures, and with the name of the last failure.  A call that
the service refuses because it is switched off is none of these.

* `Probes.record_cases` — what a record does to the probes.
* `Probes.Tallies.record` — the step: a call that is recorded is one more call to account for.
* `Service.tallies_run` — a run of calls, clearings and closings.
* `Service.snapshot_accounts` — what the probes in order say after it.
-/

namespace ArchiveCensus

/-- A call, and what it ended in. -/
abbrev Made := Operation × Except Fault Outcome

/-- How often an operation was called. -/
def invocations (made : List Made) (name : String) : Nat :=
  made.countP fun call => call.1.name = name

/-- The names of the faults that the calls of an operation ended in, in their order. -/
def failures (made : List Made) (name : String) : List String :=
  made.filterMap fun call => if call.1.name = name then Service.failureOf call.2 else none

variable {made : List Made} {name : String} {op : Operation} {result : Except Fault Outcome}

theorem invocations_concat (made : List Made) (op : Operation) (result : Except Fault Outcome) :
    invocations (made ++ [(op, result)]) op.name = invocations made op.name + 1 := by
  rw [invocations, List.countP_append, List.countP_singleton, if_pos (decide_eq_true rfl)]
  rfl

theorem invocations_concat_of_ne (h : op.name ≠ name) :
    invocations (made ++ [(op, result)]) name = invocations made name := by
  rw [invocations, List.countP_append, List.countP_singleton, if_neg (by simpa using h)]
  rfl

theorem failures_concat (made : List Made) (op : Operation) (result : Except Fault Outcome) :
    failures (made ++ [(op, result)]) op.name =
      failures made op.name ++ (Service.failureOf result).toList := by
  rw [failures, List.filterMap_append, ← failures]
  cases result with
  | ok _ => simp [Service.failureOf]
  | error _ => simp [Service.failureOf]

theorem failures_concat_of_ne (h : op.name ≠ name) :
    failures (made ++ [(op, result)]) name = failures made name := by
  rw [failures, List.filterMap_append, ← failures]
  simp [h]

/-- What was not called is not counted and has not failed. -/
theorem eq_of_not_called (h : ∀ call ∈ made, call.1.name ≠ name) :
    invocations made name = 0 ∧ failures made name = [] :=
  ⟨List.countP_eq_zero.2 fun call hcall => by simpa using h call hcall,
    List.filterMap_eq_nil_iff.2 fun call hcall => if_neg (h call hcall)⟩

/-! ## Names of faults -/

/-- Every fault has a name. -/
theorem Fault.name_ne_empty (f : Fault) : f.name ≠ "" := by
  cases f with
  | defect d => cases d <;> simp [name, Defect.name]
  | _ => simp [name, kind?]

theorem ne_empty_of_mem_failures {e : String} (h : e ∈ failures made name) : e ≠ "" := by
  obtain ⟨⟨op, result⟩, -, hfault⟩ := List.mem_filterMap.1 h
  dsimp only at hfault
  split at hfault
  · cases result with
    | ok _ => cases hfault
    | error f => exact Option.some.inj hfault ▸ f.name_ne_empty
  · cases hfault

/-! ## One probe -/

namespace Probe

variable {p : Probe}

/-- A probe counts the calls of its operation: how many there were, how many of them ended in a
fault, and how the last of these was named. -/
structure Counts (made : List Made) (p : Probe) : Prop where
  target : p.target = Service.target
  calls : p.calls = invocations made p.operation
  errors : p.errors = (failures made p.operation).length
  lastError : p.lastError = (failures made p.operation).getLast?.getD ""

/-- A probe that counts names no failure exactly if there was none. -/
theorem Counts.lastError_eq_empty_iff (h : p.Counts made) : p.lastError = "" ↔ p.errors = 0 := by
  rw [h.lastError, h.errors, List.length_eq_zero_iff]
  cases hlast : (failures made p.operation).getLast? with
  | none => exact iff_of_true rfl (List.getLast?_eq_none_iff.1 hlast)
  | some e =>
    have hmem := List.mem_of_getLast? hlast
    exact iff_of_false (ne_empty_of_mem_failures hmem) (List.ne_nil_of_mem hmem)

/-- A probe before its first call counts what was not called. -/
theorem counts_idle (h : ∀ call ∈ made, call.1.name ≠ name) :
    (idle Service.target name).Counts made := by
  obtain ⟨hcalls, hfailures⟩ := eq_of_not_called h
  exact ⟨rfl, hcalls.symm, by rw [idle, hfailures]; rfl, by rw [idle, hfailures]; rfl⟩

/-- Seconds of the clock can always be added up. -/
theorem record_double (p : Probe) (seconds : Binary64) (failure : Option String) :
    p.record (.double seconds) failure =
      { p with
        calls := p.calls + 1
        errors := p.errors + failure.isSome.toNat
        totalSeconds := p.totalSeconds.add seconds
        lastSeconds := .double seconds
        lastError := failure.getD p.lastError } := rfl

/-- A call of the operation is counted, -/
theorem Counts.record (h : p.Counts made) (hname : p.operation = op.name) (seconds : Binary64)
    (result : Except Fault Outcome) :
    (p.record (.double seconds) (Service.failureOf result)).Counts (made ++ [(op, result)]) := by
  have hfailures := failures_concat made op result
  refine ⟨h.target, ?_, ?_, ?_⟩
  · rw [record_double, hname, invocations_concat, h.calls, hname]
  · rw [record_double, hname, hfailures, h.errors, hname, List.length_append]
    cases result <;> rfl
  · rw [record_double, hname, hfailures, h.lastError, hname]
    cases result with
    | ok _ => simp [Service.failureOf]
    | error _ => simp [Service.failureOf]

/-- and a call of another one is not. -/
theorem Counts.concat_of_ne (h : p.Counts made) (hname : op.name ≠ p.operation)
    (result : Except Fault Outcome) : p.Counts (made ++ [(op, result)]) where
  target := h.target
  calls := by rw [invocations_concat_of_ne hname, h.calls]
  errors := by rw [failures_concat_of_ne hname, h.errors]
  lastError := by rw [failures_concat_of_ne hname, h.lastError]

end Probe

/-! ## The probes -/

namespace Probes

/-- **A record changes the one probe of its operation**, or puts it at the end. -/
theorem record_cases (target operation : String) (seconds : Number) (failure : Option String) :
    ∀ m : Probes,
      (∃ before p after, m = before ++ p :: after ∧ p.target = target ∧ p.operation = operation ∧
        m.record target operation seconds failure =
          before ++ p.record seconds failure :: after) ∨
      ((∀ p ∈ m, ¬ (p.target = target ∧ p.operation = operation)) ∧
        m.record target operation seconds failure =
          m ++ [(Probe.idle target operation).record seconds failure])
  | [] => .inr ⟨List.forall_mem_nil _, rfl⟩
  | p :: rest => by
    rw [record]
    by_cases hp : p.target = target ∧ p.operation = operation
    · exact .inl ⟨[], p, rest, rfl, hp.1, hp.2, if_pos hp⟩
    · rw [if_neg hp]
      obtain ⟨before, q, after, rfl, htarget, hoperation, hrecord⟩ | ⟨hnone, hrecord⟩ :=
        record_cases target operation seconds failure rest
      · exact .inl ⟨p :: before, q, after, rfl, htarget, hoperation, by rw [hrecord]; rfl⟩
      · refine .inr ⟨fun q hq => ?_, by rw [hrecord]; rfl⟩
        obtain rfl | hrest := List.mem_cons.1 hq
        · exact hp
        · exact hnone q hrest

/-- The probes tally some calls: there is one for each operation that was called, and it counts the
calls of its operation. -/
structure Tallies (made : List Made) (m : Probes) : Prop where
  nodup : (m.map Probe.operation).Nodup
  mem_iff : ∀ name, name ∈ m.map Probe.operation ↔ ∃ call ∈ made, call.1.name = name
  counts : ∀ p ∈ m, p.Counts made

theorem tallies_nil : Tallies [] [] where
  nodup := .nil
  mem_iff _ := iff_of_false List.not_mem_nil fun ⟨_, hcall, _⟩ => nomatch hcall
  counts _ hp := nomatch hp

/-- **One more call**: it is recorded where it is to be counted. -/
theorem Tallies.record {m : Probes} (h : m.Tallies made) (op : Operation) (seconds : Binary64)
    (result : Except Fault Outcome) :
    (Probes.record Service.target op.name (.double seconds) (Service.failureOf result) m).Tallies
      (made ++ [(op, result)]) := by
  have hmem : ∀ name, (∃ call ∈ made ++ [(op, result)], call.1.name = name) ↔
      name ∈ m.map Probe.operation ∨ op.name = name := fun name => by
    rw [h.mem_iff]
    simp only [List.mem_append, List.mem_singleton, or_and_right, exists_or, exists_eq_left]
  obtain ⟨before, p, after, rfl, -, hname, hrecord⟩ | ⟨hnone, hrecord⟩ :=
    record_cases Service.target op.name (.double seconds) (Service.failureOf result) m
  · have hoperations : (before ++ p.record (.double seconds) (Service.failureOf result) :: after).map
        Probe.operation = (before ++ p :: after).map Probe.operation := by
      rw [List.map_append, List.map_append, List.map_cons, List.map_cons, Probe.record_double]
    have hothers : p.operation ∉ (before ++ after).map Probe.operation := by
      have hnodup := h.nodup
      rw [List.map_append, List.map_cons, List.nodup_middle, ← List.map_append] at hnodup
      exact (List.nodup_cons.1 hnodup).1
    rw [hrecord]
    refine ⟨hoperations ▸ h.nodup, fun name => ?_, fun q hq => ?_⟩
    · rw [hoperations, hmem, or_iff_left_of_imp]
      rintro rfl
      exact hname ▸ List.mem_map_of_mem (by simp)
    · obtain rfl | hq := List.mem_cons.1 (List.perm_middle.mem_iff.1 hq)
      · exact (h.counts p (by simp)).record hname seconds result
      · have hold := List.perm_middle.mem_iff.2 (List.mem_cons_of_mem p hq)
        refine (h.counts q hold).concat_of_ne (fun hsame => hothers ?_) result
        rw [hname, hsame]
        exact List.mem_map_of_mem hq
  · have hnew : op.name ∉ m.map Probe.operation := fun hin => by
      obtain ⟨p, hp, hname⟩ := List.mem_map.1 hin
      exact hnone p hp ⟨(h.counts p hp).target, hname⟩
    have hcalls : ∀ call ∈ made, call.1.name ≠ op.name := fun call hcall hname =>
      hnew ((h.mem_iff _).2 ⟨call, hcall, hname⟩)
    have hoperations : (m ++ [(Probe.idle Service.target op.name).record (.double seconds)
        (Service.failureOf result)]).map Probe.operation = m.map Probe.operation ++ [op.name] := by
      rw [List.map_append, List.map_singleton, Probe.record_double]
      rfl
    rw [hrecord]
    refine ⟨?_, fun name => ?_, fun q hq => ?_⟩
    · rw [hoperations]
      exact h.nodup.append (List.nodup_singleton _) (List.disjoint_singleton.2 hnew)
    · rw [hoperations, hmem, List.mem_append, List.mem_singleton, eq_comm]
    · obtain hold | hlast := List.mem_append.1 hq
      · refine (h.counts q hold).concat_of_ne (fun hsame => hnew ?_) result
        rw [hsame]
        exact List.mem_map_of_mem hold
      · rw [List.mem_singleton.1 hlast]
        exact (Probe.counts_idle hcalls).record rfl seconds result

/-! ## The probes in order -/

/-- Probes are ordered by target and operation. -/
theorem upTo_eq : Probe.upTo =
    Ranking.textThen Probe.target (Ranking.byText Probe.operation) := by
  funext p q
  rw [Probe.upTo, Ranking.textThen, ite_not]
  rfl

theorem orders_upTo : Ranking.Orders Probe.upTo := by
  rw [upTo_eq]
  exact Ranking.orders_textThen (Ranking.orders_byText Probe.operation)

theorem mem_snapshot {m : Probes} {p : Probe} : p ∈ m.snapshot ↔ p ∈ m := List.mem_mergeSort

/-- The rows of a snapshot account for some calls: they ascend strictly by target and operation, so
there is at most one row for each of these; there is one for each operation that was called; and
each counts the calls of its operation. -/
structure Accounts (made : List Made) (rows : List Probe) : Prop where
  ascending : rows.Pairwise fun p q =>
    p.target < q.target ∨ p.target = q.target ∧ p.operation < q.operation
  mem_iff : ∀ target name, (∃ row ∈ rows, row.target = target ∧ row.operation = name) ↔
    target = Service.target ∧ ∃ call ∈ made, call.1.name = name
  counts : ∀ row ∈ rows, row.Counts made
  lastError_eq_empty_iff : ∀ row ∈ rows, row.lastError = "" ↔ row.errors = 0

/-- **What tallies some calls accounts for them.** -/
theorem Tallies.accounts {m : Probes} (h : m.Tallies made) : Accounts made m.snapshot where
  ascending := by
    have hperm : m.snapshot.Perm m := List.mergeSort_perm _ _
    have hdistinct : m.snapshot.Pairwise fun p q => p.operation ≠ q.operation :=
      List.pairwise_map.1 ((hperm.map Probe.operation).nodup_iff.2 h.nodup)
    have hsorted : m.snapshot.Pairwise fun p q => Probe.upTo p q :=
      List.pairwise_mergeSort orders_upTo.trans orders_upTo.total m
    refine (hdistinct.and hsorted).imp_of_mem fun {p q} hp hq ⟨hne, hupTo⟩ => ?_
    have htarget : p.target = q.target :=
      (h.counts p (mem_snapshot.1 hp)).target.trans (h.counts q (mem_snapshot.1 hq)).target.symm
    rw [Probe.upTo, if_pos htarget, Text.upTo, Bool.not_eq_true', decide_eq_false_iff_not,
      String.not_lt] at hupTo
    exact .inr ⟨htarget, String.not_le.1 fun hback => hne (String.le_antisymm hupTo hback)⟩
  mem_iff target name := by
    rw [← h.mem_iff, List.mem_map]
    constructor
    · rintro ⟨row, hrow, rfl, rfl⟩
      have hin := mem_snapshot.1 hrow
      exact ⟨(h.counts row hin).target, row, hin, rfl⟩
    · rintro ⟨rfl, row, hin, rfl⟩
      exact ⟨row, mem_snapshot.2 hin, (h.counts row hin).target, rfl⟩
  counts row hrow := h.counts row (mem_snapshot.1 hrow)
  lastError_eq_empty_iff row hrow := (h.counts row (mem_snapshot.1 hrow)).lastError_eq_empty_iff

end Probes

/-! ## Runs of the service -/

namespace Service

/-- What can be done with the service. -/
inductive Action where
  | call (heedsCaller : Bool) (op : Operation)
  | clearProbes
  /-- Gives back the connections to the index; a later call makes new ones. -/
  | close

/-- The service, with the calls that it took on since its probes were last cleared. -/
structure Session (σ : Type) where
  service : Service σ
  made : List Made

variable {σ : Type}

/-- What is probed is recorded with what it ended in. -/
theorem exists_probed (name : String) (call : Call σ Outcome) (s : Service σ) :
    ∃ seconds, (s.probed name call).2.probes =
      s.probes.record target name (.double seconds) (failureOf (s.probed name call).1) :=
  ⟨_, rfl⟩

variable [Responder σ]

/-- The session after an action.  A service that is switched off takes on no call. -/
def Session.next (c : Settings) (k : Session σ) : Action → Session σ
  | .call heedsCaller op =>
      let (result, service) := k.service.perform c heedsCaller op
      ⟨service, if c.serves then k.made ++ [(op, result)] else k.made⟩
  | .clearProbes => ⟨k.service.clearProbes, []⟩
  | .close => k

/-- The session after some actions. -/
def Session.run (c : Settings) (responder : σ) (actions : List Action) : Session σ :=
  actions.foldl (next c) ⟨.start responder, []⟩

/-- **One more action.** -/
theorem Session.tallies_next (c : Settings) {k : Session σ} (h : k.service.probes.Tallies k.made) :
    ∀ a : Action, (k.next c a).service.probes.Tallies (k.next c a).made
  | .clearProbes => Probes.tallies_nil
  | .close => h
  | .call heedsCaller op => by
    cases hserves : c.serves with
    | false =>
      rw [next, perform_of_not_serves hserves]
      simpa only [hserves, Bool.false_eq_true, if_false] using h
    | true =>
      obtain ⟨seconds, hprobes⟩ := exists_probed op.name (c.act heedsCaller op) k.service
      rw [next, perform, if_pos hserves]
      dsimp only
      rw [if_pos hserves, hprobes]
      exact h.record op seconds _

theorem Session.tallies_foldl (c : Settings) : ∀ (actions : List Action) {k : Session σ},
    k.service.probes.Tallies k.made →
      (actions.foldl (next c) k).service.probes.Tallies (actions.foldl (next c) k).made
  | [], _, h => h
  | a :: actions, _, h => tallies_foldl c actions (tallies_next c h a)

/-- No cursor is read as a service that is switched off. -/
theorem read_ne_indexDisabled (cursor : String) :
    Cursor.read cursor ≠ .error .indexDisabled := by
  rw [Cursor.read_eq]
  split
  · nofun
  · rw [Ne, Outcome.bind_eq_error_iff]
    rintro (hpayload | ⟨text, -, hvalues⟩)
    · obtain ⟨_, hflaw⟩ := Cursor.payload_error hpayload
      cases hflaw
    · obtain hvalues | ⟨_, -, hok⟩ := Outcome.bind_eq_error_iff.1 hvalues
      · obtain ⟨_, hflaw⟩ | ⟨_, -, hflaw⟩ := Cursor.values_error hvalues <;> cases hflaw
      · cases hok

/-- Only a service that is switched off rejects a call for that. -/
theorem serves_of_indexDisabled {c : Settings} {heedsCaller : Bool} {s : Service σ}
    (h : (s.perform c heedsCaller op).1 = .error .indexDisabled) : c.serves = false := by
  refine eq_false_of_ne_true fun hserves => ?_
  rw [(perform_of_serves hserves s heedsCaller op).1] at h
  obtain ⟨f, hrejects⟩ | hspares := rejects_or_spares (σ := σ) hserves heedsCaller op
  · rw [hrejects.run_act hserves] at h
    cases h
    cases hrejects with
    | off hoff =>
      rw [hserves] at hoff
      cases hoff
    | cursor _ hmalformed => exact absurd hmalformed (read_ne_indexDisabled _)
  · obtain ⟨_, hok, -⟩ | ⟨f, herror, hspared⟩ := hspares s.channel
    · rw [hok] at h
      cases h
    · rw [herror] at h
      cases h
      cases hspared

/-- **The probes account for every call**, whatever the settings are, whatever is done with the
service, and whatever the index answers; and a call that a service refuses because it is switched
off leaves them as they are. -/
theorem snapshot_accounts (c : Settings) (responder : σ) (actions : List Action) :
    Probes.Accounts (Session.run c responder actions).made
      (Session.run c responder actions).service.probes.snapshot ∧
    ∀ heedsCaller op,
      ((Session.run c responder actions).service.perform c heedsCaller op).1 =
        .error .indexDisabled →
      ((Session.run c responder actions).service.perform c heedsCaller op).2.probes.snapshot =
        (Session.run c responder actions).service.probes.snapshot := by
  refine ⟨(Session.tallies_foldl c actions Probes.tallies_nil).accounts, fun heedsCaller op h => ?_⟩
  rw [perform_of_not_serves (serves_of_indexDisabled h)]

end Service

end ArchiveCensus
