import ArchiveCensus.Fault
import ArchiveCensus.Text.Order
import ArchiveCensus.Json.Basic

/-!
# Service/Probes — how often the index was called, and how that went

There is a probe for each operation on each target that was called.  It counts the calls and the
failures, and keeps the time they took.
-/

namespace ArchiveCensus

/-- The calls of one operation on one target. -/
structure Probe where
  target : String
  operation : String
  calls : Nat
  errors : Nat
  totalSeconds : Binary64
  lastSeconds : Number
  /-- The name of the last failure; empty where no call has failed. -/
  lastError : String

namespace Probe

/-- The probe before its first call. -/
def idle (target operation : String) : Probe :=
  ⟨target, operation, 0, 0, .zero, .double .zero, ""⟩

/-- The probe after a call, which took some seconds and may have failed.  Of a call whose seconds
cannot be added up nothing is known but that there was one. -/
def record (p : Probe) (seconds : Number) (failure : Option String) : Probe :=
  match seconds.asDouble? with
  | none => { p with calls := p.calls + 1 }
  | some added =>
      { p with
        calls := p.calls + 1
        errors := p.errors + failure.isSome.toNat
        totalSeconds := p.totalSeconds.add added
        lastSeconds := seconds
        lastError := failure.getD p.lastError }

/-- The order of probes: by target, then by operation. -/
def upTo (p q : Probe) : Bool :=
  if p.target = q.target then Text.upTo p.operation q.operation else Text.upTo p.target q.target

/-- A probe as a document. -/
def toJson (p : Probe) : Json :=
  .obj [
    ("target", .str p.target),
    ("operation", .str p.operation),
    ("calls", .int p.calls),
    ("errors", .int p.errors),
    ("total_seconds", .double p.totalSeconds),
    ("last_seconds", .num p.lastSeconds),
    ("last_error", .str p.lastError)]

end Probe

/-- The probes of the operations that were called, in the order of their first calls. -/
abbrev Probes := List Probe

namespace Probes

/-- The probes after a call. -/
def record (target operation : String) (seconds : Number) (failure : Option String) :
    Probes → Probes
  | [] => [(Probe.idle target operation).record seconds failure]
  | p :: rest =>
      if p.target = target ∧ p.operation = operation then p.record seconds failure :: rest
      else p :: record target operation seconds failure rest

/-- Whether a time can be added up. -/
def check (seconds : Number) : Except Defect Unit :=
  do let _ ← Defect.orTooLarge seconds.asDouble?

/-- The probes in order. -/
def snapshot (m : Probes) : List Probe := m.mergeSort Probe.upTo

/-- The probes as a document. -/
def toJson (m : Probes) : Json := .arr (m.snapshot.map Probe.toJson)

end Probes

end ArchiveCensus
