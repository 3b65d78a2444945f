import ArchiveCensus.Census.Report
import ArchiveCensus.Index.Listing
import ArchiveCensus.Index.Lookup
import ArchiveCensus.Index.Scan
import ArchiveCensus.Index.Status
import ArchiveCensus.Service.Settings
import ArchiveCensus.Service.Probes

/-!
# Service/Basic — the calls of the service

The service lists packages, reports on one, looks up transfers, and tells how the index is doing.
It keeps nothing between calls but the channel to the index and the probes.

* `act` is what an operation does over the channel.
* `perform` does it and records how it went; a service that is switched off refuses every operation,
  asks nothing and records nothing.
-/

namespace ArchiveCensus

/-! ## Operations -/

/-- What the service can be asked for.  A blank index stands for the one of the settings. -/
inductive Operation where
  | list (wish : Listing.Wish)
  | report (wish : Scan.Wish)
  | lookup (transferUuid : String) (limit : Option Int)
  | status

/-- What an operation gives. -/
inductive Outcome where
  | listing (listing : Listing)
  | report (report : Report)
  | lookup (lookup : Lookup)
  | status (status : IndexStatus)

/-- The name an operation is recorded under. -/
def Operation.name : Operation → String
  | .list _ => "ListAIPs"
  | .report _ => "AIPStats"
  | .lookup .. => "SearchTransfer"
  | .status => "ServiceStats"

namespace Settings

variable {σ : Type}

/-- The name of an index, or that of the settings where it is blank. -/
def indexOr (c : Settings) (index : String) : String :=
  let name := Text.trim index
  if name.isEmpty then c.aipIndex else name

/-- The limit of a lookup, or that of the settings where it is not positive. -/
def lookupLimitOr (c : Settings) (limit : Option Int) : Int :=
  (limit.filter (0 < ·)).getD c.lookupLimit

/-- The guard of an operation that starts now. -/
def guard (c : Settings) (heedsCaller : Bool) : Call σ Guard := do
  Call.ofDefect (Guard.start (.double (← Call.now)) (some (.double c.scanDeadline)) heedsCaller)

/-! ## What an operation does -/

/-- Takes the documents of a package into a census, one after another. -/
def census : Consumer Census :=
  .all fun c h => (c.addSource h.document).mapError Fault.defect

/-- The report on one package, over all its documents.  It fails where the scan fails. -/
def report [Responder σ] (c : Settings) (w : Scan.Wish) (guard : Guard) : Call σ Report := do
  let scan ← Call.ofExcept
    (Scan.plan c.client { w with index := c.indexOr w.index } c.limits guard (.double c.timeout))
  let run : StateM (Channel σ) (Census × Ending) := scan.run census (.start scan.aipUuid)
  let (taken, ending) ← run
  match ending with
  | .failed fault => throw fault
  | .exhausted | .taken => Call.ofDefect taken.report

/-- What an operation does over the channel. -/
def act [Responder σ] (c : Settings) (heedsCaller : Bool) : Operation → Call σ Outcome
  | .list w => do
      let guard ← c.guard heedsCaller
      return .listing (← Listing.list c.client { w with index := c.indexOr w.index } c.limits guard
        (.double c.timeout))
  | .report w => do
      return .report (← c.report w (← c.guard heedsCaller))
  | .lookup transferUuid limit => do
      return .lookup (← Lookup.find c.client transferUuid (c.lookupLimitOr limit))
  | .status => do
      return .status (← IndexStatus.ask c.client)

end Settings

/-! ## The service -/

/-- What the service keeps between calls. -/
structure Service (σ : Type) where
  channel : Channel σ
  probes : Probes

namespace Service

variable {σ α : Type}

/-- The service before its first call. -/
def start (responder : σ) : Service σ := ⟨.start responder, []⟩

/-- What the probes name the index. -/
def target : String := "elasticsearch"

/-- The name of the fault a result is; none for a value. -/
def failureOf : Except Fault α → Option String
  | .ok _ => none
  | .error f => some f.name

/-- Makes a call and records it: how long it took, and the fault it ended in. -/
def probed (name : String) (call : Call σ α) (s : Service σ) : Except Fault α × Service σ :=
  let (result, channel) := call.run.run s.channel
  let seconds := channel.clock.sub s.channel.clock
  (result, ⟨channel, s.probes.record target name (.double seconds) (failureOf result)⟩)

/-- Performs an operation, unless the service is switched off. -/
def perform [Responder σ] (c : Settings) (heedsCaller : Bool) (op : Operation) (s : Service σ) :
    Except Fault Outcome × Service σ :=
  if c.serves then s.probed op.name (c.act heedsCaller op) else (.error .indexDisabled, s)

/-- The service with its probes cleared. -/
def clearProbes (s : Service σ) : Service σ := { s with probes := [] }

/-- **A service that is switched off refuses every operation and changes nothing.** -/
theorem perform_of_not_serves [Responder σ] {c : Settings} (h : c.serves = false)
    (heedsCaller : Bool) (op : Operation) (s : Service σ) :
    s.perform c heedsCaller op = (.error .indexDisabled, s) := by
  simp [perform, h]

end Service

end ArchiveCensus
