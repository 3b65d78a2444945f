import Mathlib.Algebra.Order.BigOperators.Group.List
import ArchiveCensus.Census.Figure
import ArchiveCensus.Proofs.Number.Rounding
import ArchiveCensus.Proofs.Outcome

/-!
# Proofs/Census/Figure — which averages have two places

Two places of an average are found through its hundredfold, which has to be a finite double.  So
there is a last average that has two places, about `1.8 · 10^306`; the figures up to it are found,
and those beyond it are a defect: of the hundredfold, as long as there is a quotient at all.

* `quotient_of_lt`, `quotient_of_le` — when a quotient is a double.
* `ratio_of_le`, `ratio_of_lt` — when a ratio has two places.
* `mean_of_forall` — means of numbers that are not too large have them.
* `percentile_of_lt`, `percentile_of_le` — when an item has a rank.
-/

namespace ArchiveCensus.Figure

open Binary64

/-! ## Two places of a double -/

/-- The number of the last double whose hundredfold is finite, on the grid of its binade. -/
def lastNumber : Nat := 5764607523034234

/-- How many units the last double has whose hundredfold is finite. -/
def lastScalable : Nat := lastNumber * 2 ^ (964 + 1074 + 1)

/-- How many units the double after it has. -/
def firstUnscalable : Nat := (lastNumber + 1) * 2 ^ (964 + 1074 + 1)

/-- How many units a half has. -/
def halfUnits : Nat := Nat.pow 2 1073

theorem halfUnits_pos : 0 < halfUnits := by
  unfold halfUnits
  generalize 1073 = e
  exact Nat.two_pow_pos e

theorem two_pow_mul_unitsPerOne (e : Nat) : 2 ^ e * unitsPerOne = 2 ^ (e + 1074) := by
  unfold unitsPerOne
  generalize 1074 = e'
  exact (Nat.pow_add ..).symm

/-- Where the end of the doubles lies: between the hundredfolds of the last scalable double and of
the next one, and beyond a half more than any double. -/
theorem overflowUnits_bounds : lastScalable * 100 < overflowUnits ∧
    overflowUnits ≤ firstUnscalable * 100 ∧ lastUnits + halfUnits < overflowUnits := by
  decide +kernel

/-- A half and a hundred are doubles. -/
theorem half_eq_and_ofInt_hundred : half = .finite false halfUnits ∧
    ofInt 100 = .finite false (100 * unitsPerOne) := by
  decide +kernel

/-- Two places come from the whole part of the hundredfold and a half. -/
theorem hundredths_eq {value : Number} {scaled : Binary64}
    (h : value.mul? 100 = some (.double scaled)) :
    hundredths value = match (scaled.add half).truncate with
      | .ok whole => .ok (.ofQuotient whole 100)
      | .error cause => .error (.ofNoWholePart cause) := by
  have hscaled : Defect.orTooLarge (Number.double scaled).asDouble? = .ok scaled := rfl
  rw [hundredths, h, Option.bind_some, hscaled, Outcome.ok_bind]
  generalize (scaled.add half).truncate = out
  cases out <;> rfl

/-- A half more than a double of some units, rounded once. -/
theorem add_half_eq (u : Nat) :
    (Binary64.finite false u).add half = ofUnits false (u + halfUnits) 1 := by
  have hpos := halfUnits_pos
  have hne : ((u : Int) + halfUnits) ≠ 0 := by omega
  have hsign : ¬ ((u : Int) + halfUnits) < 0 := by omega
  have habs : ((u : Int) + halfUnits).natAbs = u + halfUnits := by omega
  rw [half_eq_and_ofInt_hundred.1]
  simp only [add, ofSigned, signed, Bool.false_eq_true, if_false, hne, hsign, habs, decide_false]

/-- A half more than a finite double is finite. -/
theorem add_half {u : Nat} (h : u ≤ lastUnits) :
    ∃ v, (Binary64.finite false u).add half = .finite false v := by
  have hsum : u + halfUnits < overflowUnits * 1 := by
    obtain ⟨-, -, hlast⟩ := overflowUnits_bounds
    omega
  exact ⟨_, (add_half_eq u).trans (ofUnits_eq_finite false Nat.one_pos hsum)⟩

/-- A double is multiplied by a hundred as by a double. -/
theorem mul?_hundred (x : Binary64) : (Number.double x).mul? 100 =
    some (.double (x.mul (.finite false (100 * unitsPerOne)))) := by
  have hhundred : (100 : Number) = .whole 100 := rfl
  rw [hhundred, Number.double_mul?, Number.asDouble?, half_eq_and_ofInt_hundred.2]
  rfl

/-- The hundredfold of a double of some units, as a quotient of units. -/
theorem hundredfold_eq (u : Nat) : u * (100 * unitsPerOne) = u * 100 * unitsPerOne :=
  (Nat.mul_assoc ..).symm

/-- **A double up to the last scalable one has two places**, -/
theorem hundredths_of_le {u : Nat} (h : u ≤ lastScalable) :
    ∃ x, hundredths (.double (.finite false u)) = .ok x := by
  have hless : u * (100 * unitsPerOne) < overflowUnits * unitsPerOne := by
    obtain ⟨hlast, -⟩ := overflowUnits_bounds
    rw [hundredfold_eq]
    exact Nat.mul_lt_mul_of_pos_right (by omega) unitsPerOne_pos
  have hround := (roundUnits_lt_unitsLimit_iff unitsPerOne_pos).2 hless
  obtain ⟨v, hv⟩ := add_half (roundUnits_le_lastUnits unitsPerOne_pos hround)
  rw [hundredths_eq (mul?_hundred _), Binary64.mul,
    ofUnits_eq_finite _ unitsPerOne_pos hless, bne_self_eq_false, hv]
  exact ⟨_, rfl⟩

/-- and no double beyond it has. -/
theorem hundredths_of_lt {u : Nat} (h : firstUnscalable ≤ u) :
    hundredths (.double (.finite false u)) = .error .infiniteWhole := by
  have hmore : overflowUnits * unitsPerOne ≤ u * (100 * unitsPerOne) := by
    obtain ⟨-, hfirst, -⟩ := overflowUnits_bounds
    rw [hundredfold_eq]
    exact Nat.mul_le_mul_right _ (by omega)
  rw [hundredths_eq (mul?_hundred _), Binary64.mul,
    ofUnits_eq_infinite _ unitsPerOne_pos hmore, half_eq_and_ofInt_hundred.1]
  rfl

/-! ## Quotients -/

/-- The least whole number that rounds to no double. -/
def overflowWhole : Nat := (2 ^ 54 - 1) * 2 ^ 970

theorem overflowWhole_pos : 0 < overflowWhole := by
  unfold overflowWhole
  generalize 970 = e
  exact Nat.mul_pos (by decide) (Nat.two_pow_pos e)

theorem overflowUnits_eq : overflowUnits = overflowWhole * unitsPerOne := by
  rw [overflowUnits, overflowWhole, Nat.mul_assoc, two_pow_mul_unitsPerOne]

theorem ofQuotient_natCast (n d : Nat) :
    ofQuotient n d = ofUnits false (n * unitsPerOne) d := by
  have hsign : ¬ (n : Int) < 0 := by omega
  rw [ofQuotient, Int.natAbs_natCast, decide_eq_false hsign]

/-- The units of a quotient are before the end of the doubles where the quotient is. -/
theorem mul_unitsPerOne_lt_iff {n d : Nat} :
    n * unitsPerOne < overflowUnits * d ↔ n < overflowWhole * d := by
  rw [overflowUnits_eq, Nat.mul_right_comm, Nat.mul_lt_mul_right unitsPerOne_pos]

/-- A quotient of natural numbers is a finite double before the end of the doubles, -/
theorem ofQuotient_of_lt {n d : Nat} (hd : 0 < d) (h : n < overflowWhole * d) :
    ofQuotient n d = .finite false (roundUnits (n * unitsPerOne) d) := by
  rw [ofQuotient_natCast, ofUnits_eq_finite false hd (mul_unitsPerOne_lt_iff.2 h)]

/-- and an infinity from there on. -/
theorem ofQuotient_of_le {n d : Nat} (hd : 0 < d) (h : overflowWhole * d ≤ n) :
    ofQuotient n d = .infinite false := by
  have hmore : overflowUnits * d ≤ n * unitsPerOne :=
    Nat.not_lt.1 fun hless => Nat.not_lt.2 h (mul_unitsPerOne_lt_iff.1 hless)
  rw [ofQuotient_natCast, ofUnits_eq_infinite false hd hmore]

/-- **There is a quotient before the end of the doubles**, -/
theorem quotient_of_lt {n d : Nat} (hd : 0 < d) (h : n < overflowWhole * d) :
    quotient n d = .ok (.finite false (roundUnits (n * unitsPerOne) d)) := by
  rw [quotient, ofQuotient_of_lt hd h]
  rfl

/-- and none from there on. -/
theorem quotient_of_le {n d : Nat} (hd : 0 < d) (h : overflowWhole * d ≤ n) :
    quotient n d = .error .quotientTooLarge := by
  rw [quotient, ofQuotient_of_le hd h]
  rfl

/-! ## Averages -/

/-- The last average that has two places. -/
def lastAverage : Nat := (2 * lastNumber + 1) * 2 ^ 964

theorem lastAverage_pos : 0 < lastAverage := by
  unfold lastAverage
  generalize 964 = e
  exact Nat.mul_pos (by decide) (Nat.two_pow_pos e)

/-- What a ratio beyond the last average fails for: its hundredfold, or the quotient itself. -/
def excess (n d : Nat) : Defect :=
  if n < overflowWhole * d then .infiniteWhole else .quotientTooLarge

/-- The last average is before the end of the doubles. -/
theorem lastAverage_lt_overflowWhole : lastAverage < overflowWhole := by
  decide +kernel

/-- A quotient rounds to a scalable double up to the last average. -/
theorem roundUnits_lt_firstUnscalable_iff {n d : Nat} (hd : 0 < d) :
    roundUnits (n * unitsPerOne) d < firstUnscalable ↔ n ≤ lastAverage * d := by
  have hgrid : ∀ e : Nat, (2 * lastNumber + 1) * (d * 2 ^ (e + 1074 + 1)) =
      2 * ((2 * lastNumber + 1) * 2 ^ e * d * unitsPerOne) := fun e => by
    rw [Nat.pow_succ, ← two_pow_mul_unitsPerOne]
    ring
  have heven : lastNumber % 2 = 0 := by decide
  rw [firstUnscalable, roundUnits_lt_iff hd (by decide) (by decide), hgrid, ← lastAverage]
  simp only [heven, and_true]
  rw [← Nat.le_iff_lt_or_eq, Nat.mul_le_mul_left_iff (by decide),
    Nat.mul_le_mul_right_iff unitsPerOne_pos]

/-- **A ratio has two places up to the last average**, -/
theorem ratio_of_le {n d : Nat} (h : n ≤ lastAverage * d) : ∃ x, ratio n d = .ok x := by
  obtain rfl | hd := Nat.eq_zero_or_pos d
  · exact ⟨.zero, rfl⟩
  have hless : n < overflowWhole * d :=
    Nat.lt_of_le_of_lt h (Nat.mul_lt_mul_of_pos_right lastAverage_lt_overflowWhole hd)
  have hround := (roundUnits_lt_firstUnscalable_iff hd).2 h
  rw [ratio, if_neg hd.ne', quotient_of_lt hd hless, Outcome.ok_bind]
  exact hundredths_of_le (roundUnits_le_of_lt hd (by decide) (by decide) hround)

/-- and none beyond it has. -/
theorem ratio_of_lt {n d : Nat} (hd : 0 < d) (h : lastAverage * d < n) :
    ratio n d = .error (excess n d) := by
  rw [ratio, if_neg hd.ne', excess]
  split
  · rename_i hless
    have hround : firstUnscalable ≤ roundUnits (n * unitsPerOne) d := by
      rw [← Nat.not_lt, roundUnits_lt_firstUnscalable_iff hd]
      omega
    rw [quotient_of_lt hd hless, Outcome.ok_bind, hundredths_of_lt hround]
  · rename_i hmore
    rw [quotient_of_le hd (Nat.not_lt.1 hmore), Outcome.error_bind]

/-- **Numbers that are no larger than the last average have a mean.** -/
theorem mean_of_forall {values : List Int} {most : Nat} (hmost : most ≤ lastAverage)
    (h : ∀ v ∈ values, 0 ≤ v ∧ v ≤ most) : ∃ x, mean values = .ok x := by
  obtain ⟨total, htotal⟩ := Int.eq_ofNat_of_zero_le (List.sum_nonneg fun v hv => (h v hv).1)
  have hle : (total : Int) ≤ values.length * most := by
    rw [← htotal]
    simpa using List.sum_le_card_nsmul values (most : Int) fun v hv => (h v hv).2
  have hratio : total ≤ lastAverage * values.length := by
    calc total ≤ values.length * most := by exact_mod_cast hle
      _ ≤ lastAverage * values.length := by
        rw [Nat.mul_comm]
        exact Nat.mul_le_mul_right _ hmost
  rw [mean, ← List.sum_eq_foldl, htotal]
  split
  · exact ⟨.zero, rfl⟩
  · rename_i hne
    have hlength : values.length ≠ 0 := by simpa using hne
    have hsame : ratio total values.length =
        quotient total values.length >>= fun q => hundredths (.double q) := if_neg hlength
    exact hsame ▸ ratio_of_le hratio

/-! ## Ranks -/

/-- A whole number before the end of the doubles is its double, -/
theorem asDouble?_of_lt {n : Nat} (h : n < overflowWhole) :
    (Number.whole n).asDouble? = some (.finite false (roundUnits (n * unitsPerOne) 1)) := by
  rw [Number.asDouble?, ofInt, ofQuotient_of_lt Nat.one_pos (by rwa [Nat.mul_one])]
  exact if_pos rfl

/-- and none from there on has one. -/
theorem asDouble?_of_le {n : Nat} (h : overflowWhole ≤ n) :
    (Number.whole n).asDouble? = none := by
  rw [Number.asDouble?, ofInt, ofQuotient_of_le Nat.one_pos (by rwa [Nat.mul_one])]
  rfl

theorem rank_whole (last part : Nat) : rank last (.whole part) =
    Defect.orTooLarge (Number.whole (last * part : Nat)).asDouble? >>= fun share =>
      (share.divNat 100).truncate.mapError Defect.ofNoWholePart := by
  rw [rank, Number.whole_mul?_whole, Option.bind_some, Int.natCast_mul]

/-- A part of the last place that is a double is cut off at the point. -/
theorem rank_eq_truncate {last part : Nat} (h : last * part < overflowWhole) :
    rank last (.whole part) =
      ((finite false (roundUnits (last * part * unitsPerOne) 1)).divNat 100).truncate.mapError
        Defect.ofNoWholePart := by
  rw [rank_whole, asDouble?_of_lt h, Defect.orTooLarge, Outcome.ok_bind]

/-- **There is a rank where a part of the last place is before the end of the doubles**, -/
theorem rank_of_lt {last part : Nat} (h : last * part < overflowWhole) :
    ∃ z, rank last (.whole part) = .ok z := by
  have hless : last * part * unitsPerOne < overflowUnits * 1 :=
    mul_unitsPerOne_lt_iff.2 (by rwa [Nat.mul_one])
  have hround := (roundUnits_lt_unitsLimit_iff Nat.one_pos).2 hless
  have hshare := roundUnits_le_lastUnits Nat.one_pos hround
  have hhundredth : roundUnits (last * part * unitsPerOne) 1 < overflowUnits * 100 := by
    obtain ⟨-, -, hlast⟩ := overflowUnits_bounds
    omega
  rw [rank_eq_truncate h, divNat, ofUnits_eq_finite false (by decide) hhundredth]
  exact ⟨_, rfl⟩

/-- and none where it is not. -/
theorem rank_of_le {last part : Nat} (h : overflowWhole ≤ last * part) :
    rank last (.whole part) = .error .wholeTooLarge := by
  rw [rank_whole, asDouble?_of_le h]
  rfl

section

variable {items : List Int} {default : Int} {part : Nat} (hmore : ¬ Number.whole part ≤ 0)
  (hless : ¬ 100 ≤ Number.whole part)

include hmore hless

theorem percentile_of_lt (h : (items.length - 1) * part < overflowWhole) :
    ∃ z, percentile default items (.whole part) = .ok z := by
  obtain ⟨z, hz⟩ := rank_of_lt h
  simp only [percentile, if_neg hmore, if_neg hless, hz]
  split
  · exact ⟨_, rfl⟩
  · exact ⟨_, rfl⟩

theorem percentile_of_le (h : overflowWhole ≤ (items.length - 1) * part) :
    percentile default items (.whole part) = .error .wholeTooLarge := by
  have hne : items ≠ [] := by
    rintro rfl
    rw [List.length_nil, Nat.zero_sub, Nat.zero_mul] at h
    exact Nat.not_lt.2 h overflowWhole_pos
  have hfull : ¬ items.isEmpty = true := by simpa using hne
  simp only [percentile, if_neg hmore, if_neg hless, if_neg hfull, rank_of_le h]
  rfl

end

end ArchiveCensus.Figure
