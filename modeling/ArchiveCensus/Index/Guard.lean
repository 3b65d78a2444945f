import ArchiveCensus.Index.Client

/-!
# Index/Guard — when a scan has to stop

A guard holds the deadline of a scan, and whether its caller may cancel it.  It is asked before each
request and after each answer, and it shortens the time a request may take to what is left; but
never below a millisecond.
-/

namespace ArchiveCensus

/-- The bounds of a scan. -/
structure Guard where
  deadline : Option Number
  heedsCaller : Bool

namespace Guard

variable {σ : Type}

/-- The guard that stops nothing. -/
def free : Guard := ⟨none, false⟩

/-- The guard from a time on, for so many seconds; no time means any time. -/
def start (now : Number) (seconds : Option Number) (heedsCaller : Bool) : Except Defect Guard :=
  match seconds.filter (!·.isZero) with
  | none => .ok ⟨none, heedsCaller⟩
  | some seconds => do return ⟨some (← Defect.orTooLarge (now.add? seconds)), heedsCaller⟩

/-- Why a scan has to stop at a time, if it has to.  A cancellation comes before the deadline. -/
def stop? (g : Guard) (now : Number) (cancelled : Bool) : Option StopCause :=
  if g.heedsCaller && cancelled then some .caller
  else if g.deadline.any (· ≤ now) then some .deadline
  else none

/-- The least time a request may take. -/
def leastTimeout : Number := .double (.ofQuotient 1 1000)

/-- How long a request may take: as long as by default, but not beyond the deadline. -/
def timeout (g : Guard) (now default : Number) : Except Defect Number :=
  match g.deadline with
  | none => .ok default
  | some deadline => do
      return max leastTimeout (min default (← Defect.orTooLarge (deadline.sub? now)))

/-- Goes on unless the scan has to stop. -/
def check (g : Guard) : Call σ Unit := do
  let c ← get
  match g.stop? (.double c.clock) c.cancelled with
  | some cause => throw (.scanCancelled cause)
  | none => return

/-- The hits of the next page, between two checks. -/
def fetch [Responder σ] (g : Guard) (c : Client) (index : String) (query : Json)
    (timeout : Number) : Call σ (List Hit) := do
  g.check
  let timeout ← Call.ofDefect (g.timeout (.double (← Call.now)) timeout)
  let page ← c.search index query (some timeout)
  g.check
  return page.hits

end Guard

end ArchiveCensus
