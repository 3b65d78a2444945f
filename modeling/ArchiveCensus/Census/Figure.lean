import ArchiveCensus.Fault

/-!
# Census/Figure — the figures of a report

Averages and ratios are doubles with two places, where a half goes away from zero for what is not
negative.  The percentile of a sorted list is one of its items.
-/

namespace ArchiveCensus.Figure

/-- One half. -/
def half : Binary64 := .ofQuotient 1 2

/-- A number to two places: its hundredths, and a half more, cut off at the point. -/
def hundredths (value : Number) : Except Defect Binary64 := do
  let scaled ← Defect.orTooLarge ((value.mul? 100).bind Number.asDouble?)
  let whole ← (scaled.add half).truncate.mapError Defect.ofNoWholePart
  return .ofQuotient whole 100

/-- The double nearest to a quotient of whole numbers. -/
def quotient (numerator : Int) (denominator : Nat) : Except Defect Binary64 :=
  let q := Binary64.ofQuotient numerator denominator
  if q.isFinite then .ok q else .error .quotientTooLarge

/-- A ratio to two places; zero where there is nothing to divide by. -/
def ratio (numerator denominator : Nat) : Except Defect Binary64 :=
  if denominator = 0 then .ok .zero
  else do hundredths (.double (← quotient numerator denominator))

/-- The mean of some whole numbers to two places; zero where there are none. -/
def mean (values : List Int) : Except Defect Binary64 :=
  if values.isEmpty then .ok .zero
  else do hundredths (.double (← quotient (values.foldl (· + ·) 0) values.length))

/-- The place of the `p`-th percentile among items whose last place is `last`: that part of `last`,
cut off. -/
def rank (last : Nat) (p : Number) : Except Defect Int := do
  let share ← Defect.orTooLarge ((Number.mul? (.whole last) p).bind Number.asDouble?)
  (share.divNat 100).truncate.mapError Defect.ofNoWholePart

/-- The `p`-th percentile of sorted items: the first item for no part of them, the last for all. -/
def percentile {α : Type} (default : α) (items : List α) (p : Number) : Except Defect α :=
  if items.isEmpty then .ok default
  else if p ≤ 0 then .ok (items.headD default)
  else if 100 ≤ p then .ok (items.getLastD default)
  else do
    let last := items.length - 1
    let place := min (← rank last p).toNat last
    return items.getD place default

end ArchiveCensus.Figure
