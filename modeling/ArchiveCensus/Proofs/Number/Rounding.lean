import Mathlib.Algebra.Order.Ring.Nat
import Mathlib.Tactic.Ring
import ArchiveCensus.Number.Binary64

/-!
# Proofs/Number/Rounding — which quotients round to a double

The doubles from `2^(52 + e)` to `2^(53 + e)` units stand `2^e` units apart.  So a quotient rounds
to one of them, or to one below it, exactly when it does not pass the middle between that double and
the next; in the middle, the even one of the two is taken.

* `roundUnits_lt_iff` — when a quotient rounds to less than a double.
* `roundUnits_le_of_lt` — between two neighbours there is no double.
* `ofUnits_eq_finite`, `ofUnits_eq_infinite` — when rounding ends in a finite double.
-/

namespace ArchiveCensus.Binary64

variable {num den k e : Nat}

theorem unitsPerOne_pos : 0 < unitsPerOne := by
  unfold unitsPerOne
  generalize 1074 = e
  exact Nat.two_pow_pos e

/-! ## Whole numbers -/

/-- A quotient is rounded to one of its two neighbours. -/
theorem roundHalfEven_eq_or (num den : Nat) :
    roundHalfEven num den = num / den ∨ roundHalfEven num den = num / den + 1 := by
  unfold roundHalfEven
  dsimp only
  split_ifs <;> simp

/-- **Nearest, and the even one of two**: a quotient rounds to at most `k` where it does not pass
the middle after `k`. -/
theorem roundHalfEven_le_iff (hden : 0 < den) :
    roundHalfEven num den ≤ k ↔
      2 * num < (2 * k + 1) * den ∨ 2 * num = (2 * k + 1) * den ∧ k % 2 = 0 := by
  have hsplit : den * (num / den) + num % den = num := Nat.div_add_mod num den
  have hrest : num % den < den := Nat.mod_lt num hden
  have hmiddle : (2 * k + 1) * den = 2 * (den * k) + den := by ring
  rw [hmiddle]
  obtain hlt | heq | hgt := Nat.lt_trichotomy k (num / den)
  · have hle : den * (k + 1) ≤ den * (num / den) := Nat.mul_le_mul_left den hlt
    rw [Nat.mul_succ] at hle
    have hround := roundHalfEven_eq_or num den
    omega
  · subst heq
    unfold roundHalfEven
    dsimp only
    generalize den * (num / den) = whole at *
    split_ifs <;> omega
  · have hle : den * (num / den + 1) ≤ den * k := Nat.mul_le_mul_left den hgt
    rw [Nat.mul_succ] at hle
    have hround := roundHalfEven_eq_or num den
    omega

/-! ## Binades -/

theorem gridStep_eq {n : Nat} (hlow : 2 ^ (52 + e) ≤ n) (hhigh : n < 2 ^ (53 + e)) :
    gridStep n = 2 ^ e := by
  have hpos : n ≠ 0 := by
    have := Nat.two_pow_pos (52 + e)
    omega
  have hlog : n.log2 = 52 + e := by
    rw [Nat.log2_eq_iff hpos]
    exact ⟨hlow, by rwa [show 52 + e + 1 = 53 + e by omega]⟩
  rw [gridStep, Nat.pow_eq, hlog, Nat.add_sub_cancel_left]

/-- What lies below a binade rounds to its start at most. -/
theorem roundUnits_le_pow (hden : 0 < den) (hbelow : num < 2 ^ (52 + e) * den) :
    roundUnits num den ≤ 2 ^ (52 + e) := by
  have hquot : num / den < 2 ^ (52 + e) := (Nat.div_lt_iff_lt_mul hden).2 hbelow
  obtain ⟨s, hs, hstep⟩ : ∃ s ≤ 52 + e, gridStep (num / den) = 2 ^ s := by
    refine ⟨(num / den).log2 - 52, ?_, rfl⟩
    obtain hzero | hpos := Nat.eq_zero_or_pos (num / den)
    · rw [hzero]
      exact Nat.zero_le _
    · have hlog := (Nat.log2_lt hpos.ne').2 hquot
      omega
  have hsplit : 2 ^ (52 + e) = 2 ^ (52 + e - s) * 2 ^ s := by
    rw [← Nat.pow_add, Nat.sub_add_cancel hs]
  have hle : roundHalfEven num (den * 2 ^ s) ≤ 2 ^ (52 + e - s) := by
    rw [roundHalfEven_le_iff (Nat.mul_pos hden (Nat.two_pow_pos s))]
    have hgrid : (2 * 2 ^ (52 + e - s) + 1) * (den * 2 ^ s) =
        2 * (2 ^ (52 + e - s) * 2 ^ s * den) + den * 2 ^ s := by ring
    rw [hsplit] at hbelow
    omega
  calc roundUnits num den = roundHalfEven num (den * 2 ^ s) * 2 ^ s := by
        rw [roundUnits, hstep]
    _ ≤ 2 ^ (52 + e - s) * 2 ^ s := Nat.mul_le_mul_right _ hle
    _ = 2 ^ (52 + e) := hsplit.symm

/-- What lies in a binade rounds to its grid. -/
theorem roundUnits_eq (hden : 0 < den) (hlow : 2 ^ (52 + e) * den ≤ num)
    (hhigh : num < 2 ^ (53 + e) * den) :
    roundUnits num den = roundHalfEven num (den * 2 ^ e) * 2 ^ e := by
  have hstep : gridStep (num / den) = 2 ^ e :=
    gridStep_eq ((Nat.le_div_iff_mul_le hden).2 hlow) ((Nat.div_lt_iff_lt_mul hden).2 hhigh)
  rw [roundUnits, hstep]

/-- What lies beyond a binade rounds to its end at least. -/
theorem pow_le_roundUnits (hden : 0 < den) (habove : 2 ^ (52 + e) * den ≤ num) :
    2 ^ (52 + e) ≤ roundUnits num den := by
  have hquot : 2 ^ (52 + e) ≤ num / den := (Nat.le_div_iff_mul_le hden).2 habove
  have hpos : num / den ≠ 0 := by
    have := Nat.two_pow_pos (52 + e)
    omega
  have hlog : 52 + e ≤ (num / den).log2 := (Nat.le_log2 hpos).2 hquot
  obtain ⟨s, hs⟩ : ∃ s, (num / den).log2 = 52 + s := ⟨(num / den).log2 - 52, by omega⟩
  have hstep : gridStep (num / den) = 2 ^ s := by
    rw [gridStep, Nat.pow_eq, hs, Nat.add_sub_cancel_left]
  have hself : 2 ^ (52 + s) ≤ num / den := hs ▸ Nat.log2_self_le hpos
  have hfloor : 2 ^ 52 ≤ num / (den * 2 ^ s) := by
    rw [Nat.pow_add] at hself
    rw [← Nat.div_div_eq_div_mul]
    exact (Nat.le_div_iff_mul_le (Nat.two_pow_pos s)).2 hself
  have hround : 2 ^ 52 ≤ roundHalfEven num (den * 2 ^ s) := by
    have := roundHalfEven_eq_or num (den * 2 ^ s)
    omega
  calc 2 ^ (52 + e) ≤ 2 ^ (52 + s) := Nat.pow_le_pow_right (by decide) (by omega)
    _ = 2 ^ 52 * 2 ^ s := Nat.pow_add ..
    _ ≤ roundHalfEven num (den * 2 ^ s) * 2 ^ s := Nat.mul_le_mul_right _ hround
    _ = roundUnits num den := by rw [roundUnits, hstep]

/-- **Below, in, or above a binade**: rounding does not leave the side, and inside it rounds to the
grid of the binade. -/
theorem roundUnits_cases (num : Nat) (hden : 0 < den) (e : Nat) :
    (num < 2 ^ 52 * (den * 2 ^ e) ∧ roundUnits num den ≤ 2 ^ 52 * 2 ^ e) ∨
      roundUnits num den = roundHalfEven num (den * 2 ^ e) * 2 ^ e ∨
      (2 ^ 53 * (den * 2 ^ e) ≤ num ∧ 2 ^ 53 * 2 ^ e ≤ roundUnits num den) := by
  have hstart : 2 ^ 52 * (den * 2 ^ e) = 2 ^ (52 + e) * den := by ring
  have hend : 2 ^ 53 * (den * 2 ^ e) = 2 ^ (53 + e) * den := by ring
  rw [hstart, hend, ← Nat.pow_add, ← Nat.pow_add]
  obtain hbelow | hlow := Nat.lt_or_ge num (2 ^ (52 + e) * den)
  · exact .inl ⟨hbelow, roundUnits_le_pow hden hbelow⟩
  obtain hhigh | habove := Nat.lt_or_ge num (2 ^ (53 + e) * den)
  · exact .inr (.inl (roundUnits_eq hden hlow hhigh))
  · have hexp : 53 + e = 52 + (e + 1) := by omega
    rw [hexp] at habove ⊢
    exact .inr (.inr ⟨habove, pow_le_roundUnits hden habove⟩)

/-- **When a quotient rounds to less than a double**, where `k` is the number of the double before
it on the grid of its binade. -/
theorem roundUnits_lt_iff (hden : 0 < den) (hk : 2 ^ 52 ≤ k) (hk' : k < 2 ^ 53) :
    roundUnits num den < (k + 1) * 2 ^ e ↔
      2 * num < (2 * k + 1) * (den * 2 ^ e) ∨
        2 * num = (2 * k + 1) * (den * 2 ^ e) ∧ k % 2 = 0 := by
  have hstep : 0 < 2 ^ e := Nat.two_pow_pos e
  have hcell : 0 < den * 2 ^ e := Nat.mul_pos hden hstep
  obtain ⟨hbelow, hround⟩ | hround | ⟨habove, hround⟩ := roundUnits_cases num hden e
  · have hless : roundUnits num den < (k + 1) * 2 ^ e :=
      Nat.lt_of_le_of_lt hround (Nat.mul_lt_mul_of_pos_right (Nat.lt_succ_of_le hk) hstep)
    have hlow : 2 ^ 52 * (den * 2 ^ e) ≤ k * (den * 2 ^ e) := Nat.mul_le_mul_right _ hk
    have hmiddle : (2 * k + 1) * (den * 2 ^ e) = 2 * (k * (den * 2 ^ e)) + den * 2 ^ e := by ring
    simp only [hless, true_iff]
    omega
  · rw [hround, Nat.mul_lt_mul_right hstep, Nat.lt_succ_iff, roundHalfEven_le_iff hcell]
  · have hmore : (k + 1) * 2 ^ e ≤ roundUnits num den :=
      Nat.le_trans (Nat.mul_le_mul_right _ hk') hround
    have hhigh : (k + 1) * (den * 2 ^ e) ≤ 2 ^ 53 * (den * 2 ^ e) := Nat.mul_le_mul_right _ hk'
    have hmiddle : 2 * ((k + 1) * (den * 2 ^ e)) = (2 * k + 1) * (den * 2 ^ e) + den * 2 ^ e := by
      ring
    simp only [Nat.not_lt.2 hmore, false_iff]
    omega

/-- Between two neighbours there is no double. -/
theorem roundUnits_le_of_lt (hden : 0 < den) (hk : 2 ^ 52 ≤ k) (hk' : k < 2 ^ 53)
    (h : roundUnits num den < (k + 1) * 2 ^ e) : roundUnits num den ≤ k * 2 ^ e := by
  obtain ⟨-, hround⟩ | hround | ⟨-, hround⟩ := roundUnits_cases num hden e
  · exact Nat.le_trans hround (Nat.mul_le_mul_right _ hk)
  · rw [hround, Nat.mul_lt_mul_right (Nat.two_pow_pos e), Nat.lt_succ_iff] at h
    rw [hround]
    exact Nat.mul_le_mul_right _ h
  · exact absurd (Nat.lt_of_le_of_lt hround h) (Nat.not_lt.2 (Nat.mul_le_mul_right _ hk'))

/-! ## The end of the doubles -/

/-- How many units the last double has. -/
def lastUnits : Nat := (2 ^ 53 - 1) * 2 ^ (2044 + 1)

/-- The number of units in the middle between the last double and the limit. -/
def overflowUnits : Nat := (2 ^ 54 - 1) * 2 ^ 2044

theorem unitsLimit_eq : unitsLimit = (2 ^ 53 - 1 + 1) * 2 ^ (2044 + 1) := by
  decide +kernel

/-- The limit is the even one of the two: what comes to the middle rounds to it. -/
theorem roundUnits_lt_unitsLimit_iff (hden : 0 < den) :
    roundUnits num den < unitsLimit ↔ num < overflowUnits * den := by
  have hodd : ¬ (2 ^ 53 - 1) % 2 = 0 := by decide
  have hmiddle : ∀ n, (2 * (2 ^ 53 - 1) + 1) * (den * 2 ^ (n + 1)) =
      2 * ((2 ^ 54 - 1) * 2 ^ n * den) := fun n => by
    have htwice : 2 * (2 ^ 53 - 1) + 1 = 2 ^ 54 - 1 := by decide
    rw [htwice, Nat.pow_succ]
    ring
  rw [unitsLimit_eq, roundUnits_lt_iff hden (by decide) (by decide), hmiddle]
  simp only [hodd, and_false, or_false]
  exact Nat.mul_lt_mul_left (by decide)

/-- A quotient that rounds to a finite double rounds to the last one at most. -/
theorem roundUnits_le_lastUnits (hden : 0 < den) (h : roundUnits num den < unitsLimit) :
    roundUnits num den ≤ lastUnits :=
  roundUnits_le_of_lt hden (by decide) (by decide) (unitsLimit_eq ▸ h)

/-- **Rounding ends in a finite double** before the middle, -/
theorem ofUnits_eq_finite (negative : Bool) (hden : 0 < den) (h : num < overflowUnits * den) :
    ofUnits negative num den = .finite negative (roundUnits num den) := by
  have hless : roundUnits num den < unitsLimit := (roundUnits_lt_unitsLimit_iff hden).2 h
  simp only [ofUnits, hless, if_true]

/-- and in an infinity from there on. -/
theorem ofUnits_eq_infinite (negative : Bool) (hden : 0 < den) (h : overflowUnits * den ≤ num) :
    ofUnits negative num den = .infinite negative := by
  have hmore : ¬ roundUnits num den < unitsLimit :=
    fun hless => Nat.not_lt.2 h ((roundUnits_lt_unitsLimit_iff hden).1 hless)
  simp only [ofUnits, hmore, if_false]

end ArchiveCensus.Binary64
