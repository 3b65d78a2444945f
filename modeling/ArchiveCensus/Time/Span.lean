import ArchiveCensus.Time.Instant

/-!
# Time/Span — the first and the last of the instants seen

A span starts without instants and grows with each one it is given; an absent instant leaves it as
it is.
-/

namespace ArchiveCensus

/-- The earliest and the latest of some instants. -/
structure Span where
  first : Option Instant
  last : Option Instant
  deriving DecidableEq

namespace Span

/-- The span of no instants. -/
def empty : Span := ⟨none, none⟩

/-- The span with one more instant. -/
def add (s : Span) (t : Instant) : Span :=
  { first := some (match s.first with
      | some a => if t.before a then t else a
      | none => t)
    last := some (match s.last with
      | some b => if b.before t then t else b
      | none => t) }

/-- The span with an instant that may be absent. -/
def addOption (s : Span) : Option Instant → Span
  | some t => s.add t
  | none => s

@[simp] theorem addOption_none (s : Span) : s.addOption none = s := rfl

@[simp] theorem addOption_some (s : Span) (t : Instant) : s.addOption (some t) = s.add t := rfl

end Span

end ArchiveCensus
