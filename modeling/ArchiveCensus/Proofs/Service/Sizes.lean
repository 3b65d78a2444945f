import ArchiveCensus.Proofs.Index.Budget
import ArchiveCensus.Proofs.Service.Account

/-!
# Proofs/Service/Sizes — how much the service asks the index for

Every query that the service sends asks for one document at least, and a call sends no more of them
than it may fetch pages.  This is so whatever the environment says, since every ceiling is at least
one and what a caller wants is kept below its ceiling, and whatever a caller wants.

* `Limits.Takes` — what is taken for what a caller wants.
* `Service.Within` — the requests of a call are within the bounds of its operation.
* `Service.sizes_ofEnvironment` — they are, in any environment, and so no query asks for nothing.
-/

namespace ArchiveCensus

variable {σ α β : Type}

/-! ## Limits -/

namespace Limits

/-- What is taken for what a caller wants: something between one and the maximum, and what is wanted
if it is between these. -/
structure Takes (wanted : Option Int) (maximum taken : Int) : Prop where
  one_le : 1 ≤ taken
  le_maximum : taken ≤ maximum
  eq_wanted : ∀ z, wanted = some z → 1 ≤ z → z ≤ maximum → taken = z

theorem takes_clamp (wanted : Option Int) (default : Int) {maximum : Int} (h : 1 ≤ maximum) :
    Takes wanted maximum (clamp wanted default maximum) where
  one_le := one_le_clamp wanted default maximum
  le_maximum := clamp_le wanted default h
  eq_wanted := by
    rintro z rfl hone hmaximum
    exact clamp_eq_self default hone hmaximum

/-- The ceilings and the factor are at least one. -/
structure Floored (l : Limits) : Prop where
  listMax : 1 ≤ l.listMax
  listOverfetch : 1 ≤ l.listOverfetch
  listMaxPages : 1 ≤ l.listMaxPages
  scanMaxPage : 1 ≤ l.scanMaxPage
  scanMaxPages : 1 ≤ l.scanMaxPages

/-- **Limits are at least one, whatever the environment says.** -/
theorem floored_ofEnvironment (env : Environment) : (ofEnvironment env).Floored where
  listMax := env.one_le_atLeastOne ..
  listOverfetch := env.one_le_atLeastOne ..
  listMaxPages := env.one_le_atLeastOne ..
  scanMaxPage := env.one_le_atLeastOne ..
  scanMaxPages := env.one_le_atLeastOne ..

end Limits

open Limits Call

namespace Service

/-! ## Bodies -/

/-- A body asks for so many documents. -/
def Sized (size : Int) (body : Option Json) : Prop :=
  ∃ query, body = some query ∧ query.get "size" = .int size

/-- There is no body, or it asks for one document at least. -/
def AsksSome (body : Option Json) : Prop :=
  ∀ query, body = some query → ∃ size : Int, 1 ≤ size ∧ query.get "size" = .int size

theorem Sized.asksSome {size : Int} {body : Option Json} (h : Sized size body) (hsize : 1 ≤ size) :
    AsksSome body := by
  obtain ⟨query, rfl, hget⟩ := h
  rintro _ ⟨⟩
  exact ⟨size, hsize, hget⟩

/-- The requests of a call, whatever it ends in, are within the bounds of its operation. -/
inductive Within (l : Limits) (result : Except Fault Outcome) (requests : List Request) :
    Operation → Prop where
  /-- A listing asks for so many times its limit, and reports the limit. -/
  | list {w : Listing.Wish} {limit : Int} (takes : Takes w.limit l.listMax limit)
      (sized : ∀ r ∈ requests, Sized (limit * l.listOverfetch) r.body)
      (most : (requests.length : Int) ≤ l.listMaxPages)
      (reports : ∀ listing, result = .ok (.listing listing) → listing.limit = limit) :
      Within l result requests (.list w)
  /-- A report asks for the size of its pages. -/
  | report {w : Scan.Wish} {size : Int} (takes : Takes w.pageSize l.scanMaxPage size)
      (sized : ∀ r ∈ requests, Sized size r.body)
      (most : (requests.length : Int) ≤ l.scanMaxPages) : Within l result requests (.report w)
  /-- A lookup asks for what is wanted, if that is something. -/
  | lookup {transferUuid : String} {wanted : Option Int} (size : Int) (one_le : 1 ≤ size)
      (eq_wanted : ∀ z, wanted = some z → 1 ≤ z → size = z)
      (sized : ∀ r ∈ requests, Sized size r.body) (most : requests.length ≤ 1) :
      Within l result requests (.lookup transferUuid wanted)
  /-- The status is asked for without a query. -/
  | status (bodiless : ∀ r ∈ requests, r.body = none) (most : requests.length ≤ 3) :
      Within l result requests .status

/-- A run of an operation stays within the bounds: the requests that it sent do. -/
def StaysWithin (l : Limits) (op : Operation) (ch : Channel σ)
    (run : Except Fault Outcome × Channel σ) : Prop :=
  ∃ requests, run.2.sent = ch.sent ++ requests ∧ Within l run.1 requests op

variable {l : Limits} {result : Except Fault Outcome} {requests : List Request} {op : Operation}

/-- No request within the bounds asks for nothing. -/
theorem Within.asksSome (h : Within l result requests op) (hl : l.Floored) :
    ∀ r ∈ requests, AsksSome r.body := by
  intro r hr
  obtain ⟨takes, sized, -⟩ | ⟨takes, sized, -⟩ | ⟨_, one_le, -, sized, -⟩ | ⟨bodiless, -⟩ := h
  · have hsize := Int.mul_le_mul takes.one_le hl.listOverfetch Int.one_nonneg
      (Int.le_of_lt takes.one_le)
    exact (sized r hr).asksSome hsize
  · exact (sized r hr).asksSome takes.one_le
  · exact (sized r hr).asksSome one_le
  · rintro query hquery
    rw [bodiless r hr] at hquery
    cases hquery

/-- A call that asks nothing and lists nothing is within the bounds. -/
theorem within_nil (hl : l.Floored) {f : Fault} : ∀ op, Within l (.error f) [] op
  | .list w => .list (takes_clamp w.limit l.listDefault hl.listMax) (List.forall_mem_nil _)
      (Int.le_trans (by decide) hl.listMaxPages) fun _ hlisting => nomatch hlisting
  | .report w => .report (takes_clamp w.pageSize l.scanDefaultPage hl.scanMaxPage)
      (List.forall_mem_nil _) (Int.le_trans (by decide) hl.scanMaxPages)
  | .lookup _ limit => .lookup (max 1 (limit.getD 1)) (Int.le_max_left _ _)
      (by rintro z rfl hz; exact Int.max_eq_right hz) (List.forall_mem_nil _) (Nat.zero_le 1)
  | .status => .status (List.forall_mem_nil _) (Nat.zero_le 3)

end Service

/-! ## Calls -/

section

variable [Responder σ]

namespace Settings

open Service

/-- A limit of a lookup that is positive is taken as it is. -/
theorem lookupLimitOr_of_one_le (c : Settings) {z : Int} (h : 1 ≤ z) :
    c.lookupLimitOr (some z) = z := by
  have hpos : 0 < z := h
  simp [lookupLimitOr, Option.filter, hpos]

/-- Listing is listing under a guard that starts then. -/
theorem run_act_list (c : Settings) (heedsCaller : Bool) (w : Listing.Wish) (ch : Channel σ) :
    ∃ (g : Guard) (run : Except Fault Listing × Channel σ),
      run = (Listing.list c.client { w with index := c.indexOr w.index } c.limits g
        (.double c.timeout)).run.run ch ∧
      (c.act heedsCaller (.list w) : Call σ Outcome).run.run ch =
        (run.1.map Outcome.listing, run.2) := by
  obtain ⟨g, -, hguard⟩ := c.exists_guard heedsCaller ch
  refine ⟨g, _, rfl, ?_⟩
  rw [act, run_bind, hguard]
  exact run_bind_pure ..

/-- A report costs a request for each page that it may fetch. -/
theorem spends_report {shape : Option Json → Prop} (c : Settings) (w : Scan.Wish) (guard : Guard)
    (h : ∀ position, shape (some ((c.planned w guard).query position))) :
    Spends shape c.limits.scanMaxPages.toNat (c.report w guard : Call σ Report) := by
  intro ch
  by_cases hname : Text.trim w.aipUuid = ""
  · rw [run_report_nameless hname]
    exact Channel.grows_of_sent_eq rfl _
  · have hgrows := Scan.grows_run h census (.start (Text.trim w.aipUuid)) ch
    rw [run_report_eq hname]
    generalize ((c.planned w guard).run census (.start (Text.trim w.aipUuid))).run ch = scanned
      at hgrows
    obtain ⟨⟨taken, _ | _ | fault⟩, ch'⟩ := scanned
    all_goals exact hgrows

variable {c : Settings}

/-- A listing asks for so many times its limit, -/
theorem list_staysWithin (hl : c.limits.Floored) (heedsCaller : Bool) (w : Listing.Wish)
    (ch : Channel σ) :
    StaysWithin c.limits (.list w) ch ((c.act heedsCaller (.list w)).run.run ch) := by
  obtain ⟨g, run, hrun, hact⟩ := c.run_act_list heedsCaller w ch
  have hsizes : ∀ position, Sized (clamp w.limit c.limits.listDefault c.limits.listMax *
      c.limits.listOverfetch) (some ((Listing.planned c.client
        { w with index := c.indexOr w.index } c.limits g (.double c.timeout)).query position)) :=
    fun position => ⟨_, rfl, Listing.Plan.get_size_query _ position⟩
  obtain ⟨requests, hsent, hlength, hsized⟩ := Listing.spends_list hsizes ch
  have hpages := hl.listMaxPages
  have hlimit : ∀ listing, run.1 = .ok listing → listing.limit =
      clamp w.limit c.limits.listDefault c.limits.listMax := by
    intro listing hok
    rw [hrun] at hok
    -- not against the goal: the wish that is listed has its index filled in, and `w` may not
    have htaken := Listing.limit_of_list hok
    exact htaken
  rw [← hrun] at hsent
  rw [hact]
  refine ⟨requests, hsent, .list (takes_clamp _ _ hl.listMax) hsized (by omega) ?_⟩
  obtain ⟨_ | listing, _⟩ := run
  · nofun
  · rintro _ ⟨⟩
    exact hlimit listing rfl

/-- a report for the size of its pages, -/
theorem report_staysWithin (hl : c.limits.Floored) (heedsCaller : Bool) (w : Scan.Wish)
    (ch : Channel σ) :
    StaysWithin c.limits (.report w) ch ((c.act heedsCaller (.report w)).run.run ch) := by
  obtain ⟨g, -, hact⟩ := c.run_act_report heedsCaller w ch
  have hsizes : ∀ position, Sized (clamp w.pageSize c.limits.scanDefaultPage c.limits.scanMaxPage)
      (some ((c.planned w g).query position)) :=
    fun position => ⟨_, rfl, (c.planned w g).get_size_query position⟩
  obtain ⟨requests, hsent, hlength, hsized⟩ := c.spends_report w g hsizes ch
  have hpages := hl.scanMaxPages
  rw [hact]
  dsimp only [StaysWithin]
  exact ⟨requests, hsent, .report (takes_clamp _ _ hl.scanMaxPage) hsized (by omega)⟩

/-- a lookup for what is wanted, -/
theorem lookup_staysWithin (l : Limits) (heedsCaller : Bool) (transferUuid : String)
    (wanted : Option Int) (ch : Channel σ) :
    StaysWithin l (.lookup transferUuid wanted) ch
      ((c.act heedsCaller (.lookup transferUuid wanted)).run.run ch) := by
  obtain ⟨limit, hlimit⟩ : ∃ limit, c.lookupLimitOr wanted = limit := ⟨_, rfl⟩
  have hsizes : Sized (if limit ≤ 0 then Lookup.defaultLimit else limit)
      (some (Lookup.body (Text.trim transferUuid) limit)) := ⟨_, rfl, rfl⟩
  obtain ⟨requests, hsent, hlength, hsized⟩ := Lookup.spends_find c.client hsizes ch
  rw [act, hlimit, run_bind_pure]
  dsimp only [StaysWithin]
  -- a limit of the settings has no floor: the query has a default of its own instead
  refine ⟨requests, hsent, .lookup _ ?_ (fun z hz hone => ?_) hsized hlength⟩
  · split
    · decide
    · omega
  · rw [hz, lookupLimitOr_of_one_le c hone] at hlimit
    rw [← hlimit, if_neg (by omega)]

/-- and the status without a query. -/
theorem status_staysWithin (l : Limits) (heedsCaller : Bool) (ch : Channel σ) :
    StaysWithin l .status ch ((c.act heedsCaller .status).run.run ch) := by
  have hspends : Spends (· = none) 3 (IndexStatus.ask c.client : Call σ IndexStatus) :=
    IndexStatus.spends_ask c.client rfl
  obtain ⟨requests, hsent, hlength, hbodiless⟩ := hspends ch
  rw [act, run_bind_pure]
  dsimp only [StaysWithin]
  exact ⟨requests, hsent, .status hbodiless hlength⟩

/-- **What an operation sends is within its bounds**, whatever it ends in. -/
theorem act_staysWithin (hl : c.limits.Floored) (heedsCaller : Bool) (ch : Channel σ) :
    ∀ op, StaysWithin c.limits op ch ((c.act heedsCaller op).run.run ch)
  | .list w => list_staysWithin hl heedsCaller w ch
  | .report w => report_staysWithin hl heedsCaller w ch
  | .lookup transferUuid wanted => lookup_staysWithin c.limits heedsCaller transferUuid wanted ch
  | .status => status_staysWithin c.limits heedsCaller ch

end Settings

/-! ## The service -/

namespace Service

variable {c : Settings}

/-- So is what a call sends, also where the service is switched off. -/
theorem exists_within_perform (hl : c.limits.Floored) (s : Service σ) (heedsCaller : Bool)
    (op : Operation) : ∃ requests,
      (s.perform c heedsCaller op).2.channel.sent = s.channel.sent ++ requests ∧
      Within c.limits (s.perform c heedsCaller op).1 requests op := by
  cases hserves : c.serves with
  | false =>
    rw [perform_of_not_serves hserves]
    exact ⟨[], (List.append_nil _).symm, within_nil hl op⟩
  | true =>
    obtain ⟨hresult, hchannel⟩ := perform_of_serves hserves s heedsCaller op
    rw [hresult, hchannel]
    exact Settings.act_staysWithin hl heedsCaller s.channel op

/-- **One more action** asks for some documents too, -/
theorem Session.asksSome_next (hl : c.limits.Floored) {k : Session σ}
    (h : ∀ r ∈ k.service.channel.sent, AsksSome r.body) :
    ∀ a : Action, ∀ r ∈ (k.next c a).service.channel.sent, AsksSome r.body
  | .clearProbes => h
  | .close => h
  | .call heedsCaller op => by
    obtain ⟨requests, hsent, hwithin⟩ := exists_within_perform hl k.service heedsCaller op
    show ∀ r ∈ (k.service.perform c heedsCaller op).2.channel.sent, AsksSome r.body
    rw [hsent]
    exact List.forall_mem_append.2 ⟨h, hwithin.asksSome hl⟩

/-- and so do all of them. -/
theorem Session.asksSome_foldl (hl : c.limits.Floored) : ∀ (actions : List Action) {k : Session σ},
    (∀ r ∈ k.service.channel.sent, AsksSome r.body) →
      ∀ r ∈ (actions.foldl (next c) k).service.channel.sent, AsksSome r.body
  | [], _, h => h
  | a :: actions, _, h => asksSome_foldl hl actions (asksSome_next hl h a)

/-- **Whatever the environment says, the service asks for some documents in every query**, and what
a call sends is within the bounds of its operation, whatever is wanted. -/
theorem sizes_ofEnvironment (env : Environment) :
    1 ≤ (Settings.ofEnvironment env).limits.listMaxPages ∧
    1 ≤ (Settings.ofEnvironment env).limits.scanMaxPages ∧
    (∀ (responder : σ) (actions : List Action),
      ∀ r ∈ (Session.run (.ofEnvironment env) responder actions).service.channel.sent,
        AsksSome r.body) ∧
    ∀ (s : Service σ) (heedsCaller : Bool) (op : Operation), ∃ requests,
      (s.perform (.ofEnvironment env) heedsCaller op).2.channel.sent =
        s.channel.sent ++ requests ∧
      Within (Settings.ofEnvironment env).limits
        (s.perform (.ofEnvironment env) heedsCaller op).1 requests op := by
  have hl : (Settings.ofEnvironment env).limits.Floored := floored_ofEnvironment env
  exact ⟨hl.listMaxPages, hl.scanMaxPages,
    fun _ actions => Session.asksSome_foldl hl actions (List.forall_mem_nil _),
    exists_within_perform hl⟩

end Service

end

/-! ## An environment whose default is beyond its ceiling -/

namespace Service.Tight

/-- The default limit of listings is more than the ceiling, and the factor is no number. -/
def environment : Environment :=
  [("APP_ES_ENABLED", "yes"), ("APP_ES_AIP_LIST_LIMIT", "100"),
    ("APP_ES_AIP_LIST_MAX_LIMIT", " 7 "), ("APP_ES_AIP_LIST_OVERFETCH", "many"),
    ("APP_ES_AIP_LIST_MAX_PAGES", "-2")]

/-- The service after a call for a listing of any length. -/
def listed (index : Script) : Except Fault Outcome × Service Script :=
  (start index).perform (.ofEnvironment environment) true (.list ⟨"", none, ""⟩)

/-- The sizes that requests ask for, and the limit that is reported. -/
def sizes (call : Except Fault Outcome × Service Script) : List (Option Int) × Option Int :=
  (call.2.channel.sent.map fun r => r.body.map fun body => (body.get "size").wholeMeasure,
    match call.1 with
    | .ok (.listing l) => some l.limit
    | _ => none)

theorem sizes_listed : sizes (listed ⟨[]⟩) = ([some 21], some 7) := by decide +kernel

end Service.Tight

/-- One request for three times the ceiling, and whatever the index answers, no more and no other
requests than may be sent. -/
theorem Service.sizes_ofEnvironment_tight :
    Tight.sizes (Tight.listed ⟨[]⟩) = ([some 21], some 7) ∧
    ∀ index : Script, ∃ requests, (Tight.listed index).2.channel.sent = requests ∧
      Within (Settings.ofEnvironment Tight.environment).limits (Tight.listed index).1 requests
        (.list ⟨"", none, ""⟩) := by
  refine ⟨Tight.sizes_listed, fun index => ?_⟩
  unfold Tight.listed
  obtain ⟨requests, hsent, hwithin⟩ :=
    (sizes_ofEnvironment Tight.environment).2.2.2 (start index) true (.list ⟨"", none, ""⟩)
  exact ⟨requests, hsent.trans (List.nil_append requests), hwithin⟩

end ArchiveCensus
