import ArchiveCensus.Proofs.Service.Whole

/-!
# Proofs/Service/Rejection — calls that are rejected before the index is asked

A service that is switched off rejects every call.  Else a call is rejected for a cursor that cannot
be read, or for an identifier that is blank.  Nothing is sent for a call that is rejected, so it does
not matter what the index would answer.  No other call ends in a fault of these kinds.

* `Call.Spares` — a computation never ends in such a fault, whatever it is answered.
* `Service.Rejects` — which calls are rejected, and with which fault.
* `Service.perform_rejects` — these are, unseen by the index, and no others.
-/

namespace ArchiveCensus

variable {σ α β : Type}

/-- Whether a fault is about the call itself: the service is switched off, or what the call was
given is no good. -/
def Fault.isRejection : Fault → Bool
  | .indexDisabled | .malformedCursor _ | .invalidIdentifier _ => true
  | .indexUnavailable .. | .scanCancelled _ | .defect _ => false

/-- Only padding is trimmed to nothing. -/
theorem Text.trim_eq_empty_iff {s : String} :
    trim s = "" ↔ ∀ c ∈ s.toList, isPadding c = true := by
  rw [← String.toList_inj, toList_trim]
  exact strip_eq_nil_iff

/-! ## Calls that are not rejected -/

namespace Call

/-- A call spares its caller: it ends in no rejection, whatever the channel is. -/
def Spares (x : Call σ α) : Prop := Settles (fun f => f.isRejection = false) x fun _ => True

theorem spares_pure (a : α) : Spares (pure a : Call σ α) := settles_pure trivial

theorem spares_ofDefect : ∀ x : Except Defect α, Spares (ofDefect x : Call σ α)
  | .ok a => spares_pure a
  | .error d => fun _ => .inr ⟨.defect d, rfl, rfl⟩

theorem Spares.bind {x : Call σ α} {f : α → Call σ β} (hx : Spares x) (hf : ∀ a, Spares (f a)) :
    Spares (x >>= f) :=
  Settles.bind hx fun a _ => hf a

theorem spares_now : Spares (now : Call σ Binary64) := settles_now

theorem spares_send [Responder σ] (r : Request) : Spares (send r : Call σ Answer) := fun ch => by
  rw [send, run_modifyGet_bind]
  exact spares_ofDefect _ _

end Call

open Call

namespace Client

theorem spares_read (url : String) (answer : Answer) : Spares (read url answer : Call σ Json) :=
  fun ch => by
  obtain ⟨_, _, entries, -, -, hread⟩ | ⟨-, message, _, hread, -⟩ := run_read url answer ch
  · exact .inl ⟨.obj entries, by rw [hread], trivial⟩
  · exact .inr ⟨.indexUnavailable message answer.refusal?, by rw [hread], rfl⟩

variable [Responder σ] {c : Client}

/-- A request is not rejected where there is an index to ask. -/
theorem spares_request (hon : c.enabled = true) (path : String) (body : Option Json)
    (timeout : Option Number) : Spares (c.request path body timeout : Call σ Json) := by
  unfold request
  simp only [hon, Bool.not_true, Bool.false_eq_true, if_false]
  exact (spares_send _).bind fun answer => spares_read _ answer

theorem spares_search (hon : c.enabled = true) (index : String) (query : Json)
    (timeout : Option Number) : Spares (c.search index query timeout : Call σ Page) :=
  (spares_request hon _ _ _).bind fun _ => spares_pure _

end Client

namespace Guard

theorem spares_check (g : Guard) : Spares (g.check : Call σ Unit) :=
  g.settles_check.mono (fun _ ⟨_, _, _, _, hf⟩ => hf ▸ rfl) fun _ _ => trivial

theorem spares_fetch [Responder σ] {c : Client} (hon : c.enabled = true) (g : Guard)
    (index : String) (query : Json) (timeout : Number) :
    Spares (g.fetch c index query timeout : Call σ (List Hit)) :=
  g.spares_check.bind fun _ => spares_now.bind fun _ => (spares_ofDefect _).bind fun _ =>
    (Client.spares_search hon _ _ _).bind fun _ => g.spares_check.bind fun _ => spares_pure _

end Guard

/-- What is read of a cursor is not rejected for what no document holds. -/
theorem Cursor.spares_narrow (held : Option (List Json.Raw)) :
    Spares (Call.ofExcept (narrow held) : Call σ (Option (List Json))) := by
  cases hnarrow : narrow held with
  | error f =>
    obtain rfl := narrow_error hnarrow
    exact fun _ => .inr ⟨.defect .loneHalf, rfl, rfl⟩
  | ok after => exact spares_pure after

namespace Listing

variable [Responder σ]

/-- Going from page to page is not rejected. -/
theorem spares_advance {p : Plan} (hon : p.client.enabled = true) :
    ∀ (n : Nat) (position : List Json) (done : Progress),
      Spares (advance p n position done : Call σ Progress)
  | 0, _, done => spares_pure done
  | n + 1, position, done => by
    unfold advance
    split
    · exact spares_pure done
    · refine (Guard.spares_fetch hon _ _ _ _).bind fun hits => ?_
      split
      · exact spares_pure _
      · split
        · exact spares_pure _
        · exact spares_advance hon n _ _

/-- A listing from a cursor that can be read is not rejected. -/
theorem spares_list {c : Client} (hon : c.enabled = true) {w : Wish}
    {held : Option (List Json.Raw)} (hcursor : Cursor.read w.cursor = .ok held) (limits : Limits)
    (guard : Guard) (timeout : Number) :
    Spares (list c w limits guard timeout : Call σ Listing) := by
  unfold list
  rw [Cursor.decode_of_read hcursor]
  exact (Cursor.spares_narrow held).bind fun _ =>
    (spares_advance hon _ _ _).bind fun _ => spares_pure _

end Listing

/-- A lookup of an identifier that is not blank is not rejected. -/
theorem Lookup.spares_find [Responder σ] {c : Client} (hon : c.enabled = true)
    {transferUuid : String} (hname : Text.trim transferUuid ≠ "") (limit : Int) :
    Spares (find c transferUuid limit : Call σ Lookup) := by
  unfold find
  simp only [String.isEmpty_iff, hname, if_false]
  exact (Client.spares_search hon _ _ _).bind fun _ => spares_pure _

/-- The status of the index is asked for without rejection. -/
theorem IndexStatus.spares_ask [Responder σ] {c : Client} (hon : c.enabled = true) :
    Spares (ask c : Call σ IndexStatus) :=
  spares_now.bind fun _ => (Client.spares_request hon _ _ _).bind fun _ => spares_now.bind fun _ =>
    (spares_ofDefect _).bind fun _ => (Client.spares_request hon _ _ _).bind fun _ =>
      (Client.spares_request hon _ _ _).bind fun _ => spares_pure _

/-! ## Operations -/

namespace Settings

theorem settles_guard (stops : Fault → Prop) (c : Settings) (heedsCaller : Bool) :
    Settles stops (c.guard heedsCaller : Call σ Guard) Guard.Timed := fun ch =>
  let ⟨g, hstart, hrun⟩ := c.exists_guard heedsCaller ch
  .inl ⟨g, by rw [hrun], Guard.timed_of_start hstart⟩

/-- A report on a package with a name is not rejected. -/
theorem spares_report [Responder σ] {c : Settings} (hon : c.client.enabled = true) {w : Scan.Wish}
    (hname : Text.trim w.aipUuid ≠ "") {guard : Guard} (hguard : guard.Timed) :
    Spares (c.report w guard : Call σ Report) := by
  intro ch
  -- the report ends in the fault of its scan, or in a defect of the census
  obtain ⟨requests, pages, fault, -, hcourse, hfault, hnone⟩ := exists_course hname c guard ch
  cases fault with
  | some f =>
    refine .inr ⟨f, hfault f rfl, ?_⟩
    cases hcourse.halts hguard hon <;> rfl
  | none =>
    obtain ⟨hreport, -⟩ := hnone rfl
    rw [reported, Census.reportOf] at hreport
    rw [hreport]
    generalize (Census.start _).addSources _ >>= Census.report = out
    cases out with
    | ok r => exact .inl ⟨r, rfl, trivial⟩
    | error d => exact .inr ⟨.defect d, rfl, rfl⟩

end Settings

namespace Service

/-- Which calls are rejected, and with which fault: all of a service that is switched off, and else
those with a cursor that cannot be read or with an identifier of padding alone. -/
inductive Rejects (c : Settings) : Operation → Fault → Prop where
  | off {op : Operation} (off : c.serves = false) : Rejects c op .indexDisabled
  | cursor {w : Listing.Wish} {f : Fault} (on : c.serves = true)
      (malformed : Cursor.read w.cursor = .error f) : Rejects c (.list w) f
  | aip {w : Scan.Wish} (on : c.serves = true)
      (blank : ∀ ch ∈ w.aipUuid.toList, Text.isPadding ch = true) :
      Rejects c (.report w) (.invalidIdentifier .aip)
  | transfer {transferUuid : String} {limit : Option Int} (on : c.serves = true)
      (blank : ∀ ch ∈ transferUuid.toList, Text.isPadding ch = true) :
      Rejects c (.lookup transferUuid limit) (.invalidIdentifier .transfer)

variable [Responder σ] {c : Settings} {op : Operation}

/-- A call that is rejected leaves the channel as it is. -/
theorem Rejects.run_act {f : Fault} (h : Rejects c op f) (hon : c.serves = true)
    (heedsCaller : Bool) (ch : Channel σ) :
    (c.act heedsCaller op : Call σ Outcome).run.run ch = (.error f, ch) := by
  obtain ⟨g, -, hguard⟩ := c.exists_guard heedsCaller ch
  cases h with
  | off off =>
    rw [hon] at off
    cases off
  | cursor _ malformed =>
    rw [Settings.act, run_bind, hguard]
    dsimp only
    rw [Listing.list, Cursor.decode_of_read_error malformed]
    rfl
  | aip _ blank =>
    rw [Settings.act, run_bind, hguard]
    dsimp only
    rw [run_bind, Settings.run_report_nameless (Text.trim_eq_empty_iff.2 blank)]
  | transfer _ blank =>
    rw [Settings.act, Lookup.find]
    simp only [Text.trim_eq_empty_iff.2 blank]
    rfl

/-- A service that is switched on does what an operation does over its channel. -/
theorem perform_of_serves (hon : c.serves = true) (s : Service σ) (heedsCaller : Bool)
    (op : Operation) :
    (s.perform c heedsCaller op).1 = ((c.act heedsCaller op).run.run s.channel).1 ∧
      (s.perform c heedsCaller op).2.channel = ((c.act heedsCaller op).run.run s.channel).2 := by
  rw [perform, if_pos hon]
  exact ⟨rfl, rfl⟩

/-- **A call is rejected, or spares its caller.** -/
theorem rejects_or_spares (hon : c.serves = true) (heedsCaller : Bool) (op : Operation) :
    (∃ f, Rejects c op f) ∨ Spares (c.act heedsCaller op : Call σ Outcome) := by
  have hclient : c.client.enabled = true := (Bool.and_eq_true_iff.1 hon).2
  cases op with
  | list w =>
    cases hcursor : Cursor.read w.cursor with
    | error f => exact .inl ⟨f, .cursor hon hcursor⟩
    | ok held =>
      refine .inr ((Settings.settles_guard _ c heedsCaller).bind fun g _ => ?_)
      have hlist := Listing.spares_list (σ := σ) (w := { w with index := c.indexOr w.index }) hclient
        hcursor c.limits g (.double c.timeout)
      exact hlist.bind fun _ => spares_pure _
  | report w =>
    by_cases hname : Text.trim w.aipUuid = ""
    · exact .inl ⟨_, .aip hon (Text.trim_eq_empty_iff.1 hname)⟩
    · exact .inr ((Settings.settles_guard _ c heedsCaller).bind fun g hg =>
        (Settings.spares_report hclient hname hg).bind fun _ => spares_pure _)
  | lookup transferUuid limit =>
    by_cases hname : Text.trim transferUuid = ""
    · exact .inl ⟨_, .transfer hon (Text.trim_eq_empty_iff.1 hname)⟩
    · exact .inr ((Lookup.spares_find hclient hname _).bind fun _ => spares_pure _)
  | status => exact .inr ((IndexStatus.spares_ask hclient).bind fun _ => spares_pure _)

/-- **Calls are rejected unseen by the index, and no other call ends like one that is rejected**,
whatever the index would answer. -/
theorem perform_rejects (s : Service σ) (c : Settings) (heedsCaller : Bool) (op : Operation) :
    (∀ f, Rejects c op f → (s.perform c heedsCaller op).1 = .error f ∧
      (s.perform c heedsCaller op).2.channel = s.channel) ∧
    ∀ f, f.isRejection = true → (s.perform c heedsCaller op).1 = .error f → Rejects c op f := by
  cases hserves : c.serves with
  | false =>
    rw [perform_of_not_serves hserves]
    refine ⟨fun f hrejects => ?_, fun f _ hend => ?_⟩
    · cases hrejects with
      | off _ => exact ⟨rfl, rfl⟩
      | cursor on _ | aip on _ | transfer on _ =>
        rw [hserves] at on
        cases on
    · cases hend
      exact .off hserves
  | true =>
    obtain ⟨hresult, hchannel⟩ := perform_of_serves hserves s heedsCaller op
    rw [hresult, hchannel]
    refine ⟨fun f hrejects => ?_, fun f hrejection hend => ?_⟩
    · rw [hrejects.run_act hserves]
      exact ⟨rfl, rfl⟩
    · obtain ⟨f', hrejects⟩ | hspares := rejects_or_spares (σ := σ) hserves heedsCaller op
      · rw [hrejects.run_act hserves] at hend
        cases hend
        exact hrejects
      · obtain ⟨_, hok, -⟩ | ⟨f', herror, hspared⟩ := hspares s.channel
        · rw [hok] at hend
          cases hend
        · rw [herror] at hend
          cases hend
          rw [hspared] at hrejection
          cases hrejection

/-- Whatever a script answers, a cursor that no bytes are written as is rejected, and so is a package
that an ideographic space names; to ask how the index is doing is not. -/
theorem perform_rejects_script : ∀ index : Script,
    ((start index).perform TwoFiles.settings true (.list ⟨"", none, "%"⟩)).1 =
      .error (.malformedCursor .encoding) ∧
    ((start index).perform TwoFiles.settings true (.report ⟨"", "\u3000", none⟩)).1 =
      .error (.invalidIdentifier .aip) ∧
    ((start index).perform TwoFiles.settings true .status).1 ≠ .error .indexDisabled := by
  intro index
  have hon : TwoFiles.settings.serves = true := by decide
  have hblank : ∀ c ∈ "\u3000".toList, Text.isPadding c = true :=
    Text.trim_eq_empty_iff.1 (by decide)
  refine ⟨?_, ?_, fun hend => ?_⟩
  · exact ((perform_rejects _ _ _ _).1 _ (.cursor hon rfl)).1
  · exact ((perform_rejects _ _ _ _).1 _ (.aip hon hblank)).1
  · cases (perform_rejects _ _ _ _).2 _ rfl hend with
    | off off =>
      rw [hon] at off
      cases off

end Service

end ArchiveCensus
