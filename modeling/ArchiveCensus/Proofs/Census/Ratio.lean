import ArchiveCensus.Proofs.Census.Report
import ArchiveCensus.Proofs.Number.Nearest

/-!
# Proofs/Census/Ratio — two places of a ratio

A ratio is rounded to a double, its hundredfold is rounded, and a half more is rounded: together
they move it by less than half a unit.  So the hundredths are right wherever the ratio is not
exactly half-way between two of them.

Half-way the hundredfold and a half more is a whole number, which is a double.  The hundredfold
rounds back to the half-way point, and the half goes up, unless the first double is too small: then
it rounds to the double before it, and the half goes down.

* `Figure.raisedUnits_near` — how far the three roundings move the hundredfold and a half.
* `Figure.raisedUnits_lt_iff` — when they end below a whole number half-way.
* `Figure.ratio_eq_reported` — the hundredths that are reported.
* `Figure.not_forall_ratio_halfUp` — a half that goes down.
-/

namespace ArchiveCensus.Figure

open Binary64

/-! ## Hundredths -/

/-- The hundredths of a ratio, a half going up: the whole part of `100 · n / d + 1/2`. -/
def halfUp (n d : Nat) : Nat := (200 * n + d) / (2 * d)

/-- The hundredths of a ratio are half-way between two whole numbers. -/
def IsHalfway (n d : Nat) : Prop := 2 * d ∣ 200 * n + d

instance (n d : Nat) : Decidable (IsHalfway n d) := inferInstanceAs (Decidable (_ ∣ _))

/-- The units of the double nearest to a ratio. -/
def quotientUnits (n d : Nat) : Nat := roundUnits (n * unitsPerOne) d

/-- The double nearest to a ratio falls short of it, by more than a two-hundredth of the distance
between the doubles around the hundredfold of the ratio. -/
def FallsShort (n d : Nat) : Prop :=
  200 * (quotientUnits n d * d) + gridStep (100 * n * unitsPerOne / d) * d <
    200 * (n * unitsPerOne)

instance (n d : Nat) : Decidable (FallsShort n d) := inferInstanceAs (Decidable (_ < _))

/-- The hundredths that are reported of a ratio. -/
def reported (n d : Nat) : Nat :=
  if IsHalfway n d ∧ FallsShort n d then halfUp n d - 1 else halfUp n d

/-! ## The three roundings -/

/-- The units of the hundredfold of that double, rounded. -/
def scaledUnits (n d : Nat) : Nat := roundUnits (100 * quotientUnits n d) 1

/-- The units of that and a half, rounded. -/
def raisedUnits (n d : Nat) : Nat := roundUnits (scaledUnits n d + halfUnits) 1

theorem unitsPerOne_eq : unitsPerOne = 2 * halfUnits := by
  decide +kernel

theorem significant_mul_unitsPerOne {m : Nat} (hm : m ≤ 2 ^ 53) : Significant (m * unitsPerOne) := by
  unfold unitsPerOne
  generalize 1074 = e
  exact significant_mul_two_pow hm e

theorem units_lt_overflow : 2 ^ 49 * unitsPerOne < overflowUnits := by
  decide +kernel

section

variable {n d : Nat} (hd : 0 < d) (hn : n < 2 ^ 40)

include hd hn

theorem quotientUnits_le : quotientUnits n d ≤ 2 ^ 40 * unitsPerOne :=
  roundUnits_le hd (significant_mul_unitsPerOne (by decide))
    (Nat.le_trans (Nat.mul_le_mul_right _ (Nat.le_of_lt hn)) (Nat.le_mul_of_pos_right _ hd))

theorem scaledUnits_le : scaledUnits n d ≤ 2 ^ 47 * unitsPerOne := by
  refine roundUnits_le Nat.one_pos (significant_mul_unitsPerOne (by decide)) ?_
  have hq := quotientUnits_le hd hn
  omega

theorem ratio_eq :
    ratio n d = .ok (ofQuotient (raisedUnits n d / unitsPerOne : Nat) 100) := by
  have hq := quotientUnits_le hd hn
  have hv := scaledUnits_le hd hn
  have hend := units_lt_overflow
  have hhalf := unitsPerOne_eq
  have hquotient : n * unitsPerOne < overflowUnits * d := by
    have hle := Nat.mul_le_mul_right unitsPerOne (Nat.le_of_lt hn)
    exact Nat.lt_of_lt_of_le (by omega) (Nat.le_mul_of_pos_right _ hd)
  have hmul : (Number.double (.finite false (quotientUnits n d))).mul? 100 =
      some (.double (.finite false (scaledUnits n d))) := by
    have hless : 100 * quotientUnits n d * unitsPerOne < overflowUnits * unitsPerOne :=
      Nat.mul_lt_mul_of_pos_right (by omega) unitsPerOne_pos
    have hround : roundUnits (100 * quotientUnits n d * unitsPerOne) unitsPerOne =
        scaledUnits n d := by
      have hsame := roundUnits_mul_left unitsPerOne_pos (100 * quotientUnits n d) 1
      rwa [Nat.mul_comm, Nat.mul_one] at hsame
    rw [mul?_hundred, Binary64.mul, hundredfold_eq, Nat.mul_comm _ 100,
      ofUnits_eq_finite _ unitsPerOne_pos hless, hround, bne_self_eq_false]
  have hraised : scaledUnits n d + halfUnits < overflowUnits * 1 := by omega
  have hadd : (Binary64.finite false (scaledUnits n d)).add half =
      .finite false (raisedUnits n d) :=
    (add_half_eq _).trans (ofUnits_eq_finite false Nat.one_pos hraised)
  rw [ratio, if_neg hd.ne', quotient_of_lt hd (mul_unitsPerOne_lt_iff.1 hquotient),
    Outcome.ok_bind, ← quotientUnits, hundredths_eq hmul, hadd]
  rfl

/-- **Three roundings move the hundredfold and a half by less than a half.** -/
theorem raisedUnits_near (hd' : d < 2 ^ 40) :
    raisedUnits n d * d < 100 * (n * unitsPerOne) + d * halfUnits + halfUnits ∧
      100 * (n * unitsPerOne) + d * halfUnits < raisedUnits n d * d + halfUnits := by
  have hquotient := @roundUnits_bounds (n * unitsPerOne) d hd
  have hscaled := @roundUnits_bounds (100 * quotientUnits n d) 1 Nat.one_pos
  have hraised := @roundUnits_bounds (scaledUnits n d + halfUnits) 1 Nat.one_pos
  rw [← quotientUnits] at hquotient
  rw [← scaledUnits] at hscaled
  rw [← raisedUnits] at hraised
  -- all of it over the denominator
  have hscaled₁ := Nat.mul_le_mul_right d hscaled.1
  have hscaled₂ := Nat.mul_le_mul_right d hscaled.2
  have hraised₁ := Nat.mul_le_mul_right d hraised.1
  have hraised₂ := Nat.mul_le_mul_right d hraised.2
  have hsize : n * unitsPerOne ≤ 2 ^ 40 * unitsPerOne := Nat.mul_le_mul_right _ (Nat.le_of_lt hn)
  have hsize' : d * halfUnits ≤ 2 ^ 40 * halfUnits := Nat.mul_le_mul_right _ (Nat.le_of_lt hd')
  have hlarge : 2 ^ 100 ≤ halfUnits := by decide +kernel
  have hhalf := unitsPerOne_eq
  generalize unitsPerOne = one at *
  generalize halfUnits = half at *
  ring_nf at hscaled₁ hscaled₂ hraised₁ hraised₂ hquotient hsize hsize' ⊢
  omega

/-! ## Off the half-way points -/

omit hn in
/-- The hundredfold and a half, over the denominator: a whole number of hundredths, and a rest in
halves of a unit that is zero half-way. -/
theorem exists_rest (n : Nat) : ∃ rest < 2 * d, (rest = 0 ↔ IsHalfway n d) ∧
    100 * (n * unitsPerOne) + d * halfUnits =
      halfUp n d * unitsPerOne * d + rest * halfUnits := by
  refine ⟨(200 * n + d) % (2 * d), Nat.mod_lt _ (by omega), Nat.dvd_iff_mod_eq_zero.symm, ?_⟩
  have hsplit : 2 * d * halfUp n d + (200 * n + d) % (2 * d) = 200 * n + d := Nat.div_add_mod _ _
  rw [unitsPerOne_eq]
  calc 100 * (n * (2 * halfUnits)) + d * halfUnits
      = (2 * d * halfUp n d + (200 * n + d) % (2 * d)) * halfUnits := by rw [hsplit]; ring
    _ = halfUp n d * (2 * halfUnits) * d + (200 * n + d) % (2 * d) * halfUnits := by ring

/-- Off the half-way points the roundings pass no whole number of hundredths. -/
theorem raisedUnits_bounds (hd' : d < 2 ^ 40) :
    halfUp n d * unitsPerOne ≤ raisedUnits n d + unitsPerOne ∧
      (¬ IsHalfway n d → halfUp n d * unitsPerOne ≤ raisedUnits n d) ∧
      raisedUnits n d < (halfUp n d + 1) * unitsPerOne := by
  obtain ⟨rest, hrest, hzero, hsplit⟩ := exists_rest hd n
  obtain ⟨hbelow, habove⟩ := raisedUnits_near hd hn hd'
  have hone : unitsPerOne * d = 2 * d * halfUnits := by
    rw [unitsPerOne_eq]
    ring
  have hhalf : 1 * halfUnits ≤ 2 * d * halfUnits := Nat.mul_le_mul_right _ (by omega)
  have hrest' : (rest + 1) * halfUnits ≤ 2 * d * halfUnits := Nat.mul_le_mul_right _ hrest
  rw [hsplit] at hbelow habove
  rw [Nat.succ_mul] at hrest'
  refine ⟨Nat.le_of_mul_le_mul_right ?_ hd, fun hnot => Nat.le_of_mul_le_mul_right ?_ hd,
    Nat.lt_of_mul_lt_mul_right (a := d) ?_⟩
  · rw [Nat.add_mul, hone]
    omega
  · have hmore : 1 * halfUnits ≤ rest * halfUnits :=
      Nat.mul_le_mul_right _ (Nat.pos_of_ne_zero fun h => hnot (hzero.1 h))
    omega
  · rw [Nat.succ_mul, Nat.add_mul, hone]
    omega

end

/-! ## Half-way points -/

/-- At a half-way point the hundredfold of the ratio is an odd number of halves, and a half more is
a whole number of hundredths. -/
theorem IsHalfway.exists_odd {n d : Nat} (h : IsHalfway n d) (hd : 0 < d) :
    ∃ t, halfUp n d = t + 1 ∧ (2 * t + 1) * d = 200 * n := by
  obtain ⟨k, hk⟩ := h
  have hpos : 0 < 2 * d := by omega
  have hwhole : halfUp n d = k := by rw [halfUp, hk, Nat.mul_div_cancel_left _ hpos]
  cases k with
  | zero => omega
  | succ t =>
    refine ⟨t, hwhole, ?_⟩
    have hsplit : 2 * d * (t + 1) = (2 * t + 1) * d + d := by ring
    omega

theorem exists_halfUnits_eq : ∃ m, 52 ≤ m ∧ halfUnits = 2 ^ m := by
  have hm : 52 ≤ 1073 := by decide
  unfold halfUnits
  generalize 1073 = m at *
  exact ⟨m, hm, rfl⟩

/-- An odd number, other than one, shifted up to 53 bits: one step before it and one after it are
still in its binade. -/
theorem exists_shift {o : Nat} (hlow : 1 < o) (hhigh : o < 2 ^ 48) (hodd : o % 2 = 1) :
    ∃ q < 52, 2 ^ 52 + 2 ^ (q + 1) ≤ o * 2 ^ (q + 1) ∧ o * 2 ^ (q + 1) + 2 ^ (q + 1) ≤ 2 ^ 53 := by
  have hstart := Nat.log2_self_le (n := o) (by omega)
  have hend := Nat.lt_log2_self (n := o)
  cases hlog : o.log2 with
  | zero =>
    rw [hlog] at hend
    omega
  | succ l =>
    rw [hlog] at hstart hend
    have hl : l + 1 < 48 := (Nat.pow_lt_pow_iff_right (by decide : 1 < 2)).1 (by omega)
    have hbinade : 2 ^ (l + 1) * 2 ^ (50 - l + 1) = 2 ^ 52 := by
      rw [← Nat.pow_add, show l + 1 + (50 - l + 1) = 52 by omega]
    have hstart' : 2 ^ (l + 1) + 1 ≤ o := by omega
    have hend' : o + 1 ≤ 2 ^ (l + 1) * 2 := by omega
    refine ⟨50 - l, by omega, ?_, ?_⟩
    · calc 2 ^ 52 + 2 ^ (50 - l + 1) = (2 ^ (l + 1) + 1) * 2 ^ (50 - l + 1) := by
            rw [Nat.succ_mul, hbinade]
        _ ≤ o * 2 ^ (50 - l + 1) := Nat.mul_le_mul_right _ hstart'
    · calc o * 2 ^ (50 - l + 1) + 2 ^ (50 - l + 1) = (o + 1) * 2 ^ (50 - l + 1) :=
            (Nat.succ_mul ..).symm
        _ ≤ 2 ^ (l + 1) * 2 * 2 ^ (50 - l + 1) := Nat.mul_le_mul_right _ hend'
        _ = 2 ^ 52 * 2 := by rw [Nat.mul_right_comm, hbinade]
        _ = 2 ^ 53 := by decide

/-- The grid of doubles around an odd number of halves: on it this is the number after the odd number
`k`, and a half is `p` steps. -/
structure Grid (o e k p : Nat) : Prop where
  half : halfUnits = p * 2 ^ e
  next : o * p = k + 1
  odd : k % 2 = 1
  low : 2 ^ 52 ≤ k
  high : k + p < 2 ^ 53
  step : gridStep (o * halfUnits) = 2 ^ e

theorem exists_grid {o : Nat} (hlow : 1 < o) (hhigh : o < 2 ^ 48) (hodd : o % 2 = 1) :
    ∃ e k p, Grid o e k p := by
  obtain ⟨m, hm, hhalf⟩ := exists_halfUnits_eq
  obtain ⟨q, hq, hstart, hend⟩ := exists_shift hlow hhigh hodd
  obtain ⟨e, rfl⟩ : ∃ e, m = q + 1 + e := ⟨m - (q + 1), by omega⟩
  have hstep := Nat.two_pow_pos (q + 1)
  have heven : o * 2 ^ (q + 1) = 2 * (o * 2 ^ q) := by ring
  have hunits : o * halfUnits = o * 2 ^ (q + 1) * 2 ^ e := by
    rw [hhalf, Nat.pow_add, Nat.mul_assoc]
  refine ⟨e, o * 2 ^ (q + 1) - 1, 2 ^ (q + 1),
    { half := by rw [hhalf, Nat.pow_add]
      next := by omega
      odd := by omega
      low := by omega
      high := by omega
      step := ?_ }⟩
  rw [hunits]
  refine gridStep_eq ?_ ?_
  · rw [Nat.pow_add]
    exact Nat.mul_le_mul_right _ (by omega)
  · rw [Nat.pow_add 2 53]
    exact Nat.mul_lt_mul_of_pos_right (by omega) (Nat.two_pow_pos e)

theorem Grid.units {o e k p : Nat} (h : Grid o e k p) : o * halfUnits = (k + 1) * 2 ^ e := by
  rw [h.half, ← h.next, Nat.mul_assoc]

section

variable {n d t : Nat} (htie : (2 * t + 1) * d = 200 * n) (hd : 0 < d)

include htie

/-- Half-way the hundredfold has so many units, -/
theorem hundredfold_halfway : 100 * (n * unitsPerOne) = (2 * t + 1) * halfUnits * d := by
  calc 100 * (n * unitsPerOne) = 200 * n * halfUnits := by rw [unitsPerOne_eq]; ring
    _ = (2 * t + 1) * halfUnits * d := by rw [← htie]; ring

include hd

/-- and the double nearest to the ratio falls short of it by more than a step of the grid allows. -/
theorem fallsShort_iff : FallsShort n d ↔
    200 * quotientUnits n d + gridStep ((2 * t + 1) * halfUnits) <
      2 * ((2 * t + 1) * halfUnits) := by
  have hscale := hundredfold_halfway htie
  have hquot : 100 * n * unitsPerOne / d = (2 * t + 1) * halfUnits := by
    rw [Nat.mul_assoc, hscale, Nat.mul_div_cancel _ hd]
  have hleft : 200 * (quotientUnits n d * d) + gridStep ((2 * t + 1) * halfUnits) * d =
      (200 * quotientUnits n d + gridStep ((2 * t + 1) * halfUnits)) * d := by ring
  have hright : 200 * (n * unitsPerOne) = 2 * ((2 * t + 1) * halfUnits) * d := by
    rw [Nat.mul_assoc 2, ← hscale]
    ring
  rw [FallsShort, hquot, hleft, hright]
  exact Nat.mul_lt_mul_right hd

/-- The ratio 1/200 does not fall short: the double nearest to it is above it. -/
theorem le_scaledUnits_of_zero (ht : t = 0) :
    ¬ FallsShort n d ∧ halfUnits ≤ scaledUnits n d := by
  have habove : halfUnits ≤ 100 * roundUnits unitsPerOne 200 := by decide +kernel
  have hsignificant : Significant halfUnits := by
    obtain ⟨m, -, hhalf⟩ := exists_halfUnits_eq
    rw [hhalf, ← Nat.one_mul (2 ^ m)]
    exact significant_mul_two_pow (by decide) m
  have hquotient : quotientUnits n d = roundUnits unitsPerOne 200 := by
    subst ht
    have hden : d = n * 200 := by omega
    rw [quotientUnits, hden, roundUnits_mul_left (by omega)]
  constructor
  · rw [fallsShort_iff htie hd, hquotient, ht]
    omega
  · rw [scaledUnits, hquotient]
    exact le_roundUnits Nat.one_pos hsignificant (by omega)

/-- The hundredfold rounds below the half-way point exactly if the double falls short. -/
theorem Grid.scaledUnits_lt_iff {e k p : Nat} (h : Grid (2 * t + 1) e k p) :
    scaledUnits n d < (2 * t + 1) * halfUnits ↔ FallsShort n d := by
  have hmiddle : 2 * ((k + 1) * 2 ^ e) = (2 * k + 1) * (1 * 2 ^ e) + 2 ^ e := by ring
  have hlow := h.low
  have hhigh := h.high
  have hodd := h.odd
  rw [fallsShort_iff htie hd, h.step, h.units, scaledUnits,
    roundUnits_lt_iff Nat.one_pos hlow (by omega)]
  omega

end

section

variable {n d t : Nat}

theorem succ_mul_unitsPerOne (t : Nat) :
    (t + 1) * unitsPerOne = (2 * t + 1) * halfUnits + halfUnits := by
  rw [unitsPerOne_eq]
  ring

/-- From the half-way point a half goes up to the whole number, -/
theorem le_raisedUnits (ht : t < 2 ^ 47) (h : (2 * t + 1) * halfUnits ≤ scaledUnits n d) :
    (t + 1) * unitsPerOne ≤ raisedUnits n d := by
  have hone := succ_mul_unitsPerOne t
  exact le_roundUnits Nat.one_pos (significant_mul_unitsPerOne (by omega)) (by omega)

/-- and from below it does not, since the double before the half-way point is a half before a
double. -/
theorem Grid.raisedUnits_lt {e k p : Nat} (h : Grid (2 * t + 1) e k p)
    (hless : scaledUnits n d < (2 * t + 1) * halfUnits) :
    raisedUnits n d < (t + 1) * unitsPerOne := by
  have hhigh := h.high
  rw [h.units] at hless
  have hbelow := roundUnits_le_of_lt Nat.one_pos h.low (by omega) hless
  rw [← scaledUnits] at hbelow
  have hraised : raisedUnits n d ≤ (k + p) * 2 ^ e := by
    refine roundUnits_le Nat.one_pos (significant_mul_two_pow (by omega) e) ?_
    rw [h.half, Nat.add_mul, Nat.mul_one]
    exact Nat.add_le_add_right hbelow _
  have hstep := Nat.two_pow_pos e
  rw [succ_mul_unitsPerOne, h.units, h.half]
  rw [Nat.add_mul] at hraised ⊢
  omega

/-- **Half-way, a half more stays below the whole number of hundredths exactly if the double falls
short.** -/
theorem raisedUnits_lt_iff (htie : (2 * t + 1) * d = 200 * n) (hd : 0 < d) (hn : n < 2 ^ 40) :
    raisedUnits n d < (t + 1) * unitsPerOne ↔ FallsShort n d := by
  have ht : t < 2 ^ 47 := by
    have hle : (2 * t + 1) * 1 ≤ (2 * t + 1) * d := Nat.mul_le_mul_left _ hd
    omega
  obtain hzero | hpos := Nat.eq_zero_or_pos t
  · obtain ⟨hnot, hmore⟩ := le_scaledUnits_of_zero htie hd hzero
    refine iff_of_false (Nat.not_lt.2 (le_raisedUnits ht ?_)) hnot
    rw [hzero]
    omega
  · obtain ⟨e, k, p, hgrid⟩ := exists_grid (o := 2 * t + 1) (by omega) (by omega) (by omega)
    rw [← hgrid.scaledUnits_lt_iff htie hd]
    exact ⟨fun hless => Nat.lt_of_not_le fun hmore => Nat.not_lt.2 (le_raisedUnits ht hmore) hless,
      hgrid.raisedUnits_lt⟩

end

/-! ## The hundredths that are reported -/

theorem raisedUnits_div {n d : Nat} (hd : 0 < d) (hn : n < 2 ^ 40) (hd' : d < 2 ^ 40) :
    raisedUnits n d / unitsPerOne = reported n d := by
  obtain ⟨hleast, hoff, hbelow⟩ := raisedUnits_bounds hd hn hd'
  have hwhole : halfUp n d * unitsPerOne ≤ raisedUnits n d →
      raisedUnits n d / unitsPerOne = halfUp n d := fun hle =>
    Nat.div_eq_of_lt_le hle hbelow
  by_cases htie : IsHalfway n d
  · obtain ⟨t, hup, hodd⟩ := htie.exists_odd hd
    have hless := raisedUnits_lt_iff hodd hd hn
    rw [← hup] at hless
    by_cases hshort : FallsShort n d
    · rw [reported, if_pos ⟨htie, hshort⟩, hup, Nat.add_sub_cancel]
      rw [hup] at hleast hless
      refine Nat.div_eq_of_lt_le ?_ (hless.2 hshort)
      rw [Nat.succ_mul] at hleast
      omega
    · rw [reported, if_neg fun h => hshort h.2]
      exact hwhole (Nat.not_lt.1 fun h => hshort (hless.1 h))
  · rw [reported, if_neg fun h => htie h.1]
    exact hwhole (hoff htie)

theorem reported_le (n : Nat) {d : Nat} (hd : 0 < d) : reported n d ≤ 100 * n + 1 := by
  have hup : halfUp n d ≤ 100 * n + 1 := by
    have hmore : 2 * n * 100 ≤ 2 * n * 100 * d := Nat.le_mul_of_pos_right _ hd
    refine Nat.div_le_of_le_mul ?_
    rw [show 2 * d * (100 * n + 1) = 2 * n * 100 * d + 2 * d by ring]
    omega
  rw [reported]
  split <;> omega

/-- A ratio to two places is the double nearest to the hundredths that are reported of it. -/
theorem ratio_eq_reported {n d : Nat} (hd : 0 < d) (hn : n < 2 ^ 40) (hd' : d < 2 ^ 40) :
    ratio n d = .ok (ofQuotient (reported n d) 100) ∧
      (ofQuotient (reported n d) 100).IsNearest (reported n d) 100 := by
  constructor
  · rw [ratio_eq hd hn, raisedUnits_div hd hn hd']
  · have hle : reported n d * unitsPerOne ≤ 2 ^ 49 * unitsPerOne := by
      have hreported := reported_le n hd
      exact Nat.mul_le_mul_right _ (by omega)
    have hend := units_lt_overflow
    rw [ofQuotient_natCast]
    exact isNearest_ofUnits (by decide) (by omega)

/-- **Two places of a ratio.**  A half goes up; only where the ratio is exactly half-way, and the
double nearest to it falls short of it, it goes down.  The ratio is the double nearest to these
hundredths, and so are the ratios of a report. -/
theorem ratio_half_up {n d : Nat} (hd : 0 < d) (hn : n < 2 ^ 40) (hd' : d < 2 ^ 40) :
    ratio n d = .ok (ofQuotient (reported n d) 100) ∧
      (ofQuotient (reported n d) 100).IsNearest (reported n d) 100 ∧
      ∀ {c : Census} {r : Report}, c.report = .ok r → c.counters.files = d →
        (c.counters.bytes = n → r.bytesAverage = ofQuotient (reported n d) 100) ∧
        (c.counters.references = n → r.normalizedAverage = ofQuotient (reported n d) 100) ∧
        (c.distinct.formats.length = n → r.formatDiversity = ofQuotient (reported n d) 100) := by
  obtain ⟨hratio, hnearest⟩ := ratio_eq_reported hd hn hd'
  refine ⟨hratio, hnearest, fun {c r} hreport hfiles => ?_⟩
  have hshows := Census.shows_of_report hreport
  have hfigure : ∀ {m : Nat} {y : Binary64}, ratio m c.counters.files = .ok y → m = n →
      y = ofQuotient (reported n d) 100 := fun hy hm => by
    rw [hfiles, hm, hratio] at hy
    exact (Except.ok.inj hy).symm
  exact ⟨hfigure hshows.bytesAverage, hfigure hshows.normalizedAverage,
    hfigure hshows.formatDiversity⟩

/-- A package of forty files with 23 bytes. -/
def fortyFiles : List Json := Census.sized 23 :: List.replicate 39 (.obj [])

/-- Its average is 0.57, although 23/40 is 0.575. -/
theorem average_fortyFiles : ∃ c r, (Census.start "aip").addSources fortyFiles = .ok c ∧
    c.report = .ok r ∧ r.bytesAverage = ofQuotient 57 100 ∧ r.bytesAverage.IsNearest 57 100 ∧
    halfUp 23 40 = 58 := by
  have hfigures : ((Census.start "aip").addSources fortyFiles >>= fun c => c.report.map fun _ =>
      (c.counters.bytes, c.counters.files)).toOption = some (23, 40) := by decide +kernel
  obtain ⟨c, r, hc, hr, hknown⟩ := Census.exists_report_of hfigures
  obtain ⟨hbytes, hfiles⟩ := Prod.mk.inj hknown
  obtain ⟨-, hnearest, hreports⟩ :=
    ratio_half_up (n := 23) (d := 40) (by decide) (by decide) (by decide)
  have hreported : reported 23 40 = 57 := by decide +kernel
  have haverage := (hreports hr hfiles).1 hbytes
  rw [hreported] at hnearest haverage
  exact ⟨c, r, hc, hr, haverage, haverage ▸ hnearest, by decide⟩

/-- **A half does not always go up**: 23/40 is half-way between 57 and 58 hundredths, and its two
places are those of the lower one. -/
theorem not_forall_ratio_halfUp : ¬ ∀ n d : Nat, 0 < d → n < 2 ^ 40 → d < 2 ^ 40 →
    ∃ x, ratio n d = .ok x ∧ x.IsNearest (halfUp n d) 100 := by
  intro hall
  obtain ⟨x, hratio, units, rfl, -, hnearest⟩ :=
    hall 23 40 (by decide) (by decide) (by decide)
  have hlower : ratio 23 40 = .ok (.finite false (roundUnits (57 * unitsPerOne) 100)) := by
    decide +kernel
  have hunits := (Binary64.finite.inj (Except.ok.inj (hlower.symm.trans hratio))).2
  have hnearer : Nat.dist (roundUnits (58 * unitsPerOne) 100 * 100) (58 * unitsPerOne) <
      Nat.dist (roundUnits (57 * unitsPerOne) 100 * 100) (58 * unitsPerOne) := by
    decide +kernel
  have hup : halfUp 23 40 = 58 := by decide
  rw [hup, ← hunits] at hnearest
  exact Nat.not_le.2 hnearer (hnearest _ (significant_roundUnits (by decide)))

end ArchiveCensus.Figure
