import Mathlib.Data.Nat.Dist
import ArchiveCensus.Proofs.Number.Rounding

/-!
# Proofs/Number/Nearest — rounding ends at the nearest double

A double has at most 53 significant bits, so it stands on the grid of a binade or below the binade.
Rounding goes to the nearest number of the grid; what is below the binade is further away.

* `Binary64.Significant` — the numbers of units that doubles have.
* `Binary64.roundUnits_le`, `Binary64.le_roundUnits` — rounding does not pass any of them.
* `Binary64.roundUnits_nearest` — none of them is nearer than the one rounding ends at.
* `Binary64.roundUnits_bounds` — how far rounding moves a quotient.
-/

namespace ArchiveCensus.Binary64

variable {num den u : Nat}

/-! ## Significant bits -/

/-- A number of units with at most 53 significant bits, as a double has them. -/
def Significant (u : Nat) : Prop := ∃ m e, m ≤ 2 ^ 53 ∧ u = m * 2 ^ e

theorem significant_mul_two_pow {m : Nat} (hm : m ≤ 2 ^ 53) (e : Nat) : Significant (m * 2 ^ e) :=
  ⟨m, e, hm, rfl⟩

/-- Such a number is on the grid of a binade, or below the binade. -/
theorem Significant.dvd_or_lt (h : Significant u) (s : Nat) : 2 ^ s ∣ u ∨ u < 2 ^ (52 + s) := by
  obtain ⟨m, e, hm, rfl⟩ := h
  obtain hless | hmore := Nat.lt_or_ge e s
  · have hle : m * 2 ^ e ≤ 2 ^ 53 * 2 ^ (s - 1) :=
      Nat.mul_le_mul hm (Nat.pow_le_pow_right (by decide) (by omega))
    rw [← Nat.pow_add, show 53 + (s - 1) = 52 + s by omega] at hle
    obtain hlt | heq := Nat.lt_or_eq_of_le hle
    · exact .inr hlt
    · rw [heq]
      exact .inl (Nat.pow_dvd_pow 2 (by omega))
  · exact .inl (Nat.dvd_mul_left_of_dvd (Nat.pow_dvd_pow 2 hmore) m)

/-- The grid of a quotient with the whole part `n`: that of its binade, or the units themselves. -/
theorem exists_gridStep (n : Nat) : ∃ s, gridStep n = 2 ^ s ∧ (s = 0 ∨ 2 ^ (52 + s) ≤ n) ∧
    n < 2 ^ (53 + s) := by
  refine ⟨n.log2 - 52, rfl, ?_, ?_⟩
  · obtain hsmall | hlarge := Nat.le_total n.log2 52
    · exact .inl (by omega)
    · obtain rfl | hpos := Nat.eq_zero_or_pos n
      · exact .inl rfl
      · rw [Nat.add_sub_cancel' hlarge]
        exact .inr (Nat.log2_self_le hpos.ne')
  · exact Nat.lt_of_lt_of_le Nat.lt_log2_self (Nat.pow_le_pow_right (by decide) (by omega))

/-- So such a number is on that grid, or below 2⁵² steps of it while the quotient is not. -/
theorem Significant.on_or_below (h : Significant u) {s : Nat}
    (hs : s = 0 ∨ 2 ^ (52 + s) ≤ num / den) :
    (∃ k, u = k * 2 ^ s) ∨ (u < 2 ^ 52 * 2 ^ s ∧ 2 ^ 52 * (den * 2 ^ s) ≤ num) := by
  obtain ⟨k, hk⟩ | hless := h.dvd_or_lt s
  · exact .inl ⟨k, by rw [hk, Nat.mul_comm]⟩
  · obtain rfl | hlow := hs
    · exact .inl ⟨u, by rw [Nat.pow_zero, Nat.mul_one]⟩
    · rw [Nat.pow_add] at hless hlow
      refine .inr ⟨hless, ?_⟩
      calc 2 ^ 52 * (den * 2 ^ s) = 2 ^ 52 * 2 ^ s * den := by ring
        _ ≤ num / den * den := Nat.mul_le_mul_right den hlow
        _ ≤ num := Nat.div_mul_le_self num den

/-! ## The nearest number of a grid -/

/-- A quotient is rounded by half a whole number at most. -/
theorem roundHalfEven_bounds (hden : 0 < den) :
    2 * num ≤ 2 * (roundHalfEven num den * den) + den ∧
      2 * (roundHalfEven num den * den) ≤ 2 * num + den := by
  constructor
  · have hmiddle : (2 * roundHalfEven num den + 1) * den =
        2 * (roundHalfEven num den * den) + den := by ring
    rw [← hmiddle]
    obtain hless | ⟨heq, -⟩ :=
      (roundHalfEven_le_iff (k := roundHalfEven num den) hden).1 (Nat.le_refl _)
    · exact Nat.le_of_lt hless
    · exact Nat.le_of_eq heq
  · cases hround : roundHalfEven num den with
    | zero => omega
    | succ k =>
      have hmore : ¬ roundHalfEven num den ≤ k := by omega
      rw [roundHalfEven_le_iff hden, not_or, Nat.not_lt] at hmore
      have hmiddle : (2 * k + 1) * den + den = 2 * ((k + 1) * den) := by ring
      omega

/-- No whole number is nearer to a quotient than the one it is rounded to. -/
theorem roundHalfEven_nearest (hden : 0 < den) (k : Nat) :
    Nat.dist (roundHalfEven num den * den) num ≤ Nat.dist (k * den) num := by
  obtain ⟨hbelow, habove⟩ := @roundHalfEven_bounds num den hden
  unfold Nat.dist
  obtain hless | heq | hmore := Nat.lt_trichotomy k (roundHalfEven num den)
  · have hstep : (k + 1) * den ≤ roundHalfEven num den * den := Nat.mul_le_mul_right den hless
    rw [Nat.succ_mul] at hstep
    omega
  · rw [heq]
  · have hstep : (roundHalfEven num den + 1) * den ≤ k * den := Nat.mul_le_mul_right den hmore
    rw [Nat.succ_mul] at hstep
    omega

/-! ## The nearest double -/

/-- What a quotient rounds to has so many bits, -/
theorem significant_roundUnits (hden : 0 < den) : Significant (roundUnits num den) := by
  obtain ⟨s, hstep, -, hhigh⟩ := exists_gridStep (num / den)
  have hcell : 0 < den * 2 ^ s := Nat.mul_pos hden (Nat.two_pow_pos s)
  have hnum : num < 2 ^ 53 * (den * 2 ^ s) := by
    calc num < 2 ^ (53 + s) * den := (Nat.div_lt_iff_lt_mul hden).1 hhigh
      _ = 2 ^ 53 * (den * 2 ^ s) := by ring
  rw [roundUnits, hstep]
  refine significant_mul_two_pow ((roundHalfEven_le_iff hcell).2 (.inl ?_)) s
  have hmiddle : (2 * 2 ^ 53 + 1) * (den * 2 ^ s) =
      2 * (2 ^ 53 * (den * 2 ^ s)) + den * 2 ^ s := by ring
  omega

/-- **and no number with so many bits is nearer to the quotient.** -/
theorem roundUnits_nearest (hden : 0 < den) (hu : Significant u) :
    Nat.dist (roundUnits num den * den) num ≤ Nat.dist (u * den) num := by
  obtain ⟨s, hstep, hlow, -⟩ := exists_gridStep (num / den)
  have hcell : 0 < den * 2 ^ s := Nat.mul_pos hden (Nat.two_pow_pos s)
  have hgrid : ∀ k, k * 2 ^ s * den = k * (den * 2 ^ s) := fun k => by ring
  have hnearest := @roundHalfEven_nearest num (den * 2 ^ s) hcell
  rw [roundUnits, hstep, hgrid]
  obtain ⟨k, rfl⟩ | ⟨hbelow, hstart⟩ := hu.on_or_below hlow
  · rw [hgrid]
    exact hnearest k
  · -- the start of the binade is nearer than what is below it
    have hless : u * den < 2 ^ 52 * (den * 2 ^ s) := by
      rw [← hgrid]
      exact Nat.mul_lt_mul_of_pos_right hbelow hden
    have hbinade := hnearest (2 ^ 52)
    unfold Nat.dist at hbinade ⊢
    omega

/-- **What a quotient does not exceed, it does not round beyond**, -/
theorem roundUnits_le (hden : 0 < den) (hu : Significant u) (h : num ≤ u * den) :
    roundUnits num den ≤ u := by
  obtain ⟨s, hstep, hlow, -⟩ := exists_gridStep (num / den)
  have hcell : 0 < den * 2 ^ s := Nat.mul_pos hden (Nat.two_pow_pos s)
  obtain ⟨k, rfl⟩ | ⟨hbelow, hstart⟩ := hu.on_or_below hlow
  · have hmiddle : (2 * k + 1) * (den * 2 ^ s) = 2 * (k * 2 ^ s * den) + den * 2 ^ s := by ring
    rw [roundUnits, hstep]
    exact Nat.mul_le_mul_right _ ((roundHalfEven_le_iff hcell).2 (.inl (by omega)))
  · have hless : u * den < 2 ^ 52 * 2 ^ s * den := Nat.mul_lt_mul_of_pos_right hbelow hden
    have hgrid : 2 ^ 52 * 2 ^ s * den = 2 ^ 52 * (den * 2 ^ s) := by ring
    omega

/-- **and what it comes to, it does not round below.** -/
theorem le_roundUnits (hden : 0 < den) (hu : Significant u) (h : u * den ≤ num) :
    u ≤ roundUnits num den := by
  obtain ⟨s, hstep, hlow, -⟩ := exists_gridStep (num / den)
  have hcell : 0 < den * 2 ^ s := Nat.mul_pos hden (Nat.two_pow_pos s)
  have hwhole : num / (den * 2 ^ s) ≤ roundHalfEven num (den * 2 ^ s) := by
    obtain heq | hnext := roundHalfEven_eq_or num (den * 2 ^ s)
    · exact Nat.le_of_eq heq.symm
    · exact hnext ▸ Nat.le_succ _
  rw [roundUnits, hstep]
  obtain ⟨k, rfl⟩ | ⟨hbelow, hstart⟩ := hu.on_or_below hlow
  · have hgrid : k * 2 ^ s * den = k * (den * 2 ^ s) := by ring
    rw [hgrid] at h
    exact Nat.mul_le_mul_right _ (Nat.le_trans ((Nat.le_div_iff_mul_le hcell).2 h) hwhole)
  · exact Nat.le_trans (Nat.le_of_lt hbelow) (Nat.mul_le_mul_right _
      (Nat.le_trans ((Nat.le_div_iff_mul_le hcell).2 hstart) hwhole))

/-- **How far rounding moves a quotient**: by a part in 2⁵³ of it, or by half a unit. -/
theorem roundUnits_bounds (hden : 0 < den) :
    2 ^ 53 * (roundUnits num den * den) ≤ 2 ^ 53 * num + (num + 2 ^ 52 * den) ∧
      2 ^ 53 * num ≤ 2 ^ 53 * (roundUnits num den * den) + (num + 2 ^ 52 * den) := by
  obtain ⟨s, hstep, hlow, -⟩ := exists_gridStep (num / den)
  have hcell : 0 < den * 2 ^ s := Nat.mul_pos hden (Nat.two_pow_pos s)
  have hgrid : roundUnits num den * den = roundHalfEven num (den * 2 ^ s) * (den * 2 ^ s) := by
    rw [roundUnits, hstep]
    ring
  have hbinade : 2 ^ 52 * (den * 2 ^ s) ≤ num + 2 ^ 52 * den := by
    obtain rfl | hlow := hlow
    · rw [Nat.pow_zero, Nat.mul_one]
      exact Nat.le_add_left _ _
    · calc 2 ^ 52 * (den * 2 ^ s) = 2 ^ (52 + s) * den := by ring
        _ ≤ num / den * den := Nat.mul_le_mul_right den hlow
        _ ≤ num := Nat.div_mul_le_self num den
        _ ≤ num + 2 ^ 52 * den := Nat.le_add_right _ _
  obtain ⟨hbelow, habove⟩ := @roundHalfEven_bounds num (den * 2 ^ s) hcell
  rw [hgrid]
  omega

/-- A quotient in other terms rounds alike. -/
theorem roundUnits_mul_left {c : Nat} (hc : 0 < c) (num den : Nat) :
    roundUnits (c * num) (c * den) = roundUnits num den := by
  have hround : ∀ num den, roundHalfEven (c * num) (c * den) = roundHalfEven num den :=
    fun num den => by
      unfold roundHalfEven
      rw [Nat.mul_div_mul_left _ _ hc, Nat.mul_mod_mul_left]
      simp only [Nat.mul_left_comm 2 c, Nat.mul_lt_mul_left hc]
  rw [roundUnits, roundUnits, Nat.mul_div_mul_left _ _ hc]
  simp only [Nat.mul_assoc c den, hround]

/-! ## Doubles -/

/-- A double is nearest to a quotient: it is finite, and no finite double is nearer. -/
def IsNearest (x : Binary64) (num den : Nat) : Prop :=
  ∃ units, x = .finite false units ∧ Significant units ∧ ∀ u, Significant u →
    Nat.dist (units * den) (num * unitsPerOne) ≤ Nat.dist (u * den) (num * unitsPerOne)

/-- What a quotient before the end of the doubles rounds to is nearest to it. -/
theorem isNearest_ofUnits (hden : 0 < den) (h : num * unitsPerOne < overflowUnits * den) :
    (ofUnits false (num * unitsPerOne) den).IsNearest num den :=
  ⟨_, ofUnits_eq_finite false hden h, significant_roundUnits hden,
    fun _ hu => roundUnits_nearest hden hu⟩

end ArchiveCensus.Binary64
