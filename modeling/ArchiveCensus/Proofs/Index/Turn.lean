import ArchiveCensus.Proofs.Index.Call

/-!
# Proofs/Index/Turn — one request, and everything that it can come to

Nothing is assumed of the index here: its answers may be good or not, honest or not, and may depend
on all that it was asked before.  A fetch sends one request at most.  It sends it when the guard is
not due, and comes to the page it is answered with only if the guard is not due after it either.

* `Guard.Due` — the caller has cancelled, or the deadline has come.
* `Moment` — a request on its way: the channel at that time, and the request.
* `Exchange.Fails` — the index cannot be reached, refuses, or answers with no document map.
* `Client.run_search` — a search is answered with a page, or fails.
* `Pager.turn` — everything that a fetch can come to.
-/

namespace ArchiveCensus

variable {σ : Type}

/-- Whether a warning is that of the last page a scan may fetch. -/
def Warning.isCeiling : Warning → Bool
  | .pageCeiling .. => true
  | _ => false

/-! ## Guards -/

/-- A guard is due if its caller has cancelled, or its deadline has come. -/
def Guard.Due (g : Guard) (ch : Channel σ) : Prop :=
  g.heedsCaller = true ∧ ch.cancelled = true ∨
    ∃ deadline, g.deadline = some deadline ∧ deadline ≤ .double ch.clock

/-- A guard stops a scan exactly when it is due. -/
theorem Guard.stop?_eq_none_iff (g : Guard) (ch : Channel σ) :
    g.stop? (.double ch.clock) ch.cancelled = none ↔ ¬ g.Due ch := by
  rw [stop?, Due]
  cases g.heedsCaller <;> cases ch.cancelled <;> cases hdeadline : g.deadline <;> simp

/-- A check goes on where the guard is not due, and leaves the channel as it is in any case. -/
theorem Guard.run_check (g : Guard) (ch : Channel σ) :
    ¬ g.Due ch ∧ (g.check : Call σ Unit).run.run ch = (.ok (), ch) ∨
      g.Due ch ∧ ∃ cause, (g.check : Call σ Unit).run.run ch =
        (.error (.scanCancelled cause), ch) := by
  have hiff := g.stop?_eq_none_iff ch
  rw [check, Call.run_get_bind]
  cases hstop : g.stop? (.double ch.clock) ch.cancelled with
  | none => exact .inl ⟨hiff.1 hstop, rfl⟩
  | some cause =>
    rw [hstop] at hiff
    have hdue : g.Due ch := Classical.not_not.1 fun hnot =>
      Option.some_ne_none cause (hiff.2 hnot)
    exact .inr ⟨hdue, cause, rfl⟩

/-! ## Answers -/

/-- There is no page in an answer: the index cannot be reached, its status says that the answer is
not good, its document cannot be read, or it is no map. -/
inductive Answer.Fails : Answer → Prop where
  | unreachable (reason message : String) : Fails (.unreachable reason message)
  | refused {status : Int} (bad : Client.isGood status = false) (text : String)
      (document : Except String Json) : Fails (.response status text document)
  | unreadable (status : Int) (text message : String) :
      Fails (.response status text (.error message))
  | noMap (status : Int) (text : String) {j : Json} (other : ∀ entries, j ≠ .obj entries) :
      Fails (.response status text (.ok j))

/-- An exchange comes to an end without a page, in a time that can be counted. -/
structure Exchange.Fails (e : Exchange) : Prop where
  answer : e.answer.Fails
  elapsed : e.elapsed.asDouble?.isSome = true

/-- An answer that fails is no map with a good status. -/
theorem Answer.Fails.not_isGood {answer : Answer} {status : Int} {text : String}
    {entries : List (String × Json)} (h : answer.Fails)
    (hanswer : answer = .response status text (.ok (.obj entries))) :
    Client.isGood status = false := by
  subst hanswer
  cases h with
  | refused bad => exact bad
  | noMap _ _ other => exact absurd rfl (other entries)

/-- An exchange that fails gives no hits. -/
theorem Exchange.Fails.not_gives {e : Exchange} (h : e.Fails) (hits : List Hit) :
    ¬ e.Gives hits := by
  rintro ⟨⟨status, text, entries, hanswer, hgood, -⟩, -⟩
  rw [h.answer.not_isGood hanswer] at hgood
  cases hgood

/-- The status of an answer that is refused. -/
def Answer.refusal? : Answer → Option Int
  | .response status _ _ => if Client.isGood status then none else some status
  | .unreachable .. => none

/-- An answer is read as the map in it, or fails: then the index is unavailable, with the status of
a refusal, which may be warned of. -/
theorem Client.run_read (url : String) (answer : Answer) (ch : Channel σ) :
    (∃ status text entries, answer = .response status text (.ok (.obj entries)) ∧
        isGood status = true ∧
        (read url answer : Call σ Json).run.run ch = (.ok (.obj entries), ch)) ∨
      answer.Fails ∧ ∃ message ws, (read url answer : Call σ Json).run.run ch =
          (.error (.indexUnavailable message answer.refusal?),
            { ch with warnings := ch.warnings ++ ws }) ∧
        ∀ w ∈ ws, Warning.isCeiling w = false := by
  have hquiet : { ch with warnings := ch.warnings ++ [] } = ch := by rw [List.append_nil]
  cases answer with
  | unreachable reason message =>
    exact .inr ⟨.unreachable .., _, [_], rfl, by simp [Warning.isCeiling]⟩
  | response status text document =>
    cases hgood : isGood status with
    | false =>
      have hrefusal : Answer.refusal? (.response status text document) = some status :=
        if_neg (by simp [hgood])
      have hrefused : (read url (.response status text document) : Call σ Json).run.run ch =
          (.error (.indexUnavailable
            ("elasticsearch status=" ++ decimal status ++ " body=" ++ quoted text) (some status)),
          { ch with warnings := ch.warnings ++ [.refused url status] }) := by
        simp only [read, hgood]
        rfl
      rw [hrefusal]
      exact .inr ⟨.refused hgood .., _, _, hrefused, by simp [Warning.isCeiling]⟩
    | true =>
      have hrefusal : Answer.refusal? (.response status text document) = none := if_pos hgood
      rw [hrefusal]
      simp only [read, hgood]
      cases document with
      | error message =>
        exact .inr ⟨.unreadable .., _, [], by rw [hquiet]; rfl, by simp⟩
      | ok j =>
        cases j with
        | obj entries => exact .inl ⟨_, _, _, rfl, hgood, rfl⟩
        | null | bool | num | str | arr =>
          exact .inr ⟨.noMap _ _ (fun _ hobj => nomatch hobj), _, [], by rw [hquiet]; rfl,
            by simp⟩

theorem Call.run_now_bind {α : Type} (f : Binary64 → Call σ α) (ch : Channel σ) :
    (now >>= f).run.run ch = (f ch.clock).run.run ch := rfl

/-! ## Requests on their way -/

/-- A request on its way: the channel at the time, and the request. -/
structure Moment (σ : Type) where
  channel : Channel σ
  request : Request

namespace Moment

variable [Responder σ]

/-- What the index makes of the request. -/
def exchange (m : Moment σ) : Exchange := (Responder.exchange m.channel.responder m.request).1

/-- The channel after the exchange. -/
def after (m : Moment σ) : Channel σ := (m.channel.send m.request).2

@[simp] theorem sent_after (m : Moment σ) : m.after.sent = m.channel.sent ++ [m.request] :=
  Channel.sent_send ..

/-- An exchange that takes a countable time passes it, and one that cannot be counted none. -/
theorem send_eq (m : Moment σ) :
    (∃ seconds, m.exchange.elapsed.asDouble? = some seconds ∧
      m.channel.send m.request = (.ok m.exchange.answer, m.after) ∧
      m.after.clock = m.channel.clock.add seconds) ∨
    m.exchange.elapsed.asDouble? = none ∧
      m.channel.send m.request = (.error .wholeTooLarge, m.after) ∧
      m.after.clock = m.channel.clock := by
  cases hseconds : m.exchange.elapsed.asDouble? with
  | some seconds =>
    rw [exchange] at hseconds
    refine .inl ⟨seconds, rfl, ?_, ?_⟩ <;>
      simp only [after, exchange, Channel.send, hseconds, Defect.orTooLarge]
  | none =>
    rw [exchange] at hseconds
    refine .inr ⟨rfl, ?_, ?_⟩ <;> simp only [after, Channel.send, hseconds, Defect.orTooLarge]

theorem responder_after (m : Moment σ) :
    m.after.responder = (Responder.exchange m.channel.responder m.request).2 := by
  rw [after, Channel.send]
  dsimp only
  split <;> rfl

theorem warnings_after (m : Moment σ) : m.after.warnings = m.channel.warnings := by
  rw [after, Channel.send]
  dsimp only
  split <;> rfl

end Moment

/-! ## One search -/

/-- The request that a search sends. -/
def Client.searchRequest (c : Client) (index : String) (query : Json) (timeout : Option Number) :
    Request :=
  ⟨c.endpoint ++ searchPath index, timeout.getD c.timeout, some query⟩

/-- **What a search of an index comes to**: its answer is read as a page or fails, unless it takes
more seconds than can be counted. -/
theorem Client.run_search [Responder σ] {c : Client} {index : String} {query : Json}
    {timeout : Option Number} {m : Moment σ} (hon : c.enabled = true)
    (hm : m.request = c.searchRequest index query timeout) :
    m.exchange.elapsed.asDouble?.isSome = true ∧
      ((∃ status text entries, m.exchange.answer = .response status text (.ok (.obj entries)) ∧
          isGood status = true ∧
          (c.search index query timeout : Call σ Page).run.run m.channel =
            (.ok (.ofJson (.obj entries)), m.after)) ∨
        m.exchange.answer.Fails ∧ ∃ message ws,
          (c.search index query timeout : Call σ Page).run.run m.channel =
            (.error (.indexUnavailable message m.exchange.answer.refusal?),
              { m.after with warnings := m.after.warnings ++ ws }) ∧
          ∀ w ∈ ws, Warning.isCeiling w = false) ∨
    m.exchange.elapsed.asDouble? = none ∧
      (c.search index query timeout : Call σ Page).run.run m.channel =
        (.error (.defect .wholeTooLarge), m.after) := by
  rw [search, request, hon]
  simp only [Bool.not_true, Bool.false_eq_true, if_false]
  rw [searchRequest] at hm
  rw [← hm, Call.run_bind, Call.run_bind, Call.send, Call.run_modifyGet_bind]
  obtain ⟨seconds, hseconds, hsend, -⟩ | ⟨hendless, hsend, -⟩ := m.send_eq
  · have helapsed : m.exchange.elapsed.asDouble?.isSome = true := by
      rw [hseconds]
      rfl
    have hanswer : (Call.ofDefect (.ok m.exchange.answer) : Call σ Answer).run.run m.after =
        (.ok m.exchange.answer, m.after) := rfl
    simp only [hsend, hanswer]
    refine .inl ⟨helapsed, ?_⟩
    obtain ⟨status, text, entries, hgives, hgood, hread⟩ | ⟨hfails, message, ws, hread, hquiet⟩ :=
      run_read (c.endpoint ++ searchPath index) m.exchange.answer m.after
    · rw [hread]
      exact .inl ⟨status, text, entries, hgives, hgood, rfl⟩
    · rw [hread]
      exact .inr ⟨hfails, message, ws, rfl, hquiet⟩
  · rw [hsend]
    exact .inr ⟨hendless, rfl⟩

/-! ## One page -/

/-- What is asked of an index page by page: the same query, but for the position. -/
structure Pager where
  client : Client
  index : String
  query : List Json → Json
  guard : Guard
  timeout : Number

namespace Pager

variable [Responder σ]

/-- The page behind a position. -/
def fetch (p : Pager) (position : List Json) : Call σ (List Hit) :=
  p.guard.fetch p.client p.index (p.query position) p.timeout

/-- A request is the one for the page behind a position. -/
def Asks (p : Pager) (position : List Json) (r : Request) : Prop :=
  ∃ t, r = ⟨p.client.endpoint ++ Client.searchPath p.index, t, some (p.query position)⟩

/-- A request is sent for the page behind a position: the guard is not due, and allows the time that
the request may take. -/
structure Sends (p : Pager) (position : List Json) (m : Moment σ) : Prop where
  asks : p.Asks position m.request
  notDue : ¬ p.guard.Due m.channel
  timeout : p.guard.timeout (.double m.channel.clock) p.timeout = .ok m.request.timeout

/-- Why nothing is sent for a page: the guard is due, it cannot tell how long the request may take,
or there is no index to ask. -/
inductive Withholds (p : Pager) (ch : Channel σ) : Fault → Prop where
  | due {cause : StopCause} (due : p.guard.Due ch) : Withholds p ch (.scanCancelled cause)
  | untimed {d : Defect} (untimed : p.guard.timeout (.double ch.clock) p.timeout = .error d) :
      Withholds p ch (.defect d)
  | disabled (off : p.client.enabled = false) : Withholds p ch .indexDisabled

/-- What a fetch can come to, whatever the index makes of its request. -/
inductive Turn (p : Pager) (position : List Json) (ch : Channel σ) :
    Except Fault (List Hit) → Channel σ → Prop where
  /-- Nothing is sent. -/
  | unsent {f : Fault} (withholds : p.Withholds ch f) : Turn p position ch (.error f) ch
  /-- The request is answered with a page in time. -/
  | page {r : Request} {hits : List Hit} (sends : p.Sends position ⟨ch, r⟩)
      (gives : (Moment.mk ch r).exchange.Gives hits)
      (intime : ¬ p.guard.Due (Moment.mk ch r).after) :
      Turn p position ch (.ok hits) (Moment.mk ch r).after
  /-- The request is answered with a page, but too late. -/
  | late {r : Request} {hits : List Hit} {cause : StopCause} (sends : p.Sends position ⟨ch, r⟩)
      (gives : (Moment.mk ch r).exchange.Gives hits)
      (due : p.guard.Due (Moment.mk ch r).after) :
      Turn p position ch (.error (.scanCancelled cause)) (Moment.mk ch r).after
  /-- The exchange fails. -/
  | failed {r : Request} {message : String} {status : Option Int} {ws : List Warning}
      (sends : p.Sends position ⟨ch, r⟩) (fails : (Moment.mk ch r).exchange.Fails)
      (quiet : ∀ w ∈ ws, w.isCeiling = false) :
      Turn p position ch (.error (.indexUnavailable message status))
        { (Moment.mk ch r).after with warnings := (Moment.mk ch r).after.warnings ++ ws }
  /-- The exchange takes more seconds than can be counted. -/
  | lost {r : Request} (sends : p.Sends position ⟨ch, r⟩)
      (endless : (Moment.mk ch r).exchange.elapsed.asDouble? = none) :
      Turn p position ch (.error (.defect .wholeTooLarge)) (Moment.mk ch r).after

/-- The request for the page behind a position, with a time that it may take. -/
def request (p : Pager) (position : List Json) (t : Number) : Request :=
  ⟨p.client.endpoint ++ Client.searchPath p.index, t, some (p.query position)⟩

/-- What a search comes to: nothing is sent where there is no index to ask; and else the index gives
a page, fails, or takes more seconds than can be counted. -/
theorem run_search (p : Pager) (position : List Json) {t : Number} {m : Moment σ}
    (hm : m.request = p.request position t) {run : Except Fault Page × Channel σ}
    (hrun : (p.client.search p.index (p.query position) (some t) : Call σ Page).run.run m.channel =
      run) :
    run = (.error .indexDisabled, m.channel) ∧ p.client.enabled = false ∨
      (∃ page, run = (.ok page, m.after) ∧ m.exchange.Gives page.hits) ∨
      (∃ message status ws, run = (.error (.indexUnavailable message status),
          { m.after with warnings := m.after.warnings ++ ws }) ∧ m.exchange.Fails ∧
        ∀ w ∈ ws, Warning.isCeiling w = false) ∨
      run = (.error (.defect .wholeTooLarge), m.after) ∧ m.exchange.elapsed.asDouble? = none := by
  subst hrun
  cases henabled : p.client.enabled with
  | false =>
    rw [Client.search, Client.request, henabled]
    exact .inl ⟨rfl, rfl⟩
  | true =>
    have hsearch : m.request = p.client.searchRequest p.index (p.query position) (some t) := hm
    obtain ⟨helapsed, hanswered⟩ | ⟨hendless, hrun⟩ := Client.run_search henabled hsearch
    · obtain ⟨status, text, entries, hgives, hgood, hrun⟩ | ⟨hfails, message, ws, hrun, hquiet⟩ :=
        hanswered
      · exact .inr (.inl ⟨_, hrun, ⟨status, text, entries, hgives, hgood, rfl⟩, helapsed⟩)
      · exact .inr (.inr (.inl ⟨message, _, ws, hrun, ⟨hfails, helapsed⟩, hquiet⟩))
    · exact .inr (.inr (.inr ⟨hrun, hendless⟩))

/-- **Everything that a fetch can come to.** -/
theorem turn (p : Pager) (position : List Json) (ch : Channel σ) :
    p.Turn position ch ((p.fetch position).run.run ch).1 ((p.fetch position).run.run ch).2 := by
  rw [fetch, Guard.fetch, Call.run_bind]
  obtain ⟨hnotDue, hcheck⟩ | ⟨hdue, cause, hcheck⟩ := p.guard.run_check ch
  · simp only [hcheck]
    rw [Call.run_now_bind, Call.run_bind]
    cases htimeout : p.guard.timeout (.double ch.clock) p.timeout with
    | error d => exact .unsent (.untimed htimeout)
    | ok t =>
      have hrun : (Call.ofDefect (.ok t) : Call σ Number).run.run ch = (.ok t, ch) := rfl
      simp only [hrun]
      rw [Call.run_bind]
      have hsends : p.Sends position ⟨ch, p.request position t⟩ := ⟨⟨t, rfl⟩, hnotDue, htimeout⟩
      obtain ⟨hsearch, hoff⟩ | ⟨page, hsearch, hgives⟩ |
        ⟨message, status, ws, hsearch, hfails, hquiet⟩ | ⟨hsearch, hendless⟩ :=
          p.run_search position (m := ⟨ch, p.request position t⟩) rfl rfl
      · rw [hsearch]
        exact .unsent (.disabled hoff)
      · rw [hsearch]
        dsimp only
        rw [Call.run_bind]
        obtain ⟨hintime, hcheck⟩ | ⟨hdue, cause, hcheck⟩ :=
          p.guard.run_check (Moment.mk ch (p.request position t)).after
        · rw [hcheck]
          exact .page hsends hgives hintime
        · rw [hcheck]
          exact .late hsends hgives hdue
      · rw [hsearch]
        exact .failed hsends hfails hquiet
      · rw [hsearch]
        exact .lost hsends hendless
  · rw [hcheck]
    exact .unsent (.due hdue)

end Pager

end ArchiveCensus
