import ArchiveCensus.Proofs.Census.Ratio
import ArchiveCensus.Proofs.Number.Order

/-!
# Proofs/Census/Percentile — the place of a percentile is exact

The place of a percentile is a quotient by a hundred, rounded to a double and cut off.  Rounding
moves a quotient of moderate whole numbers by less than its distance from the next whole number, and
whole numbers are doubles, so it is cut off where the quotient itself would be.

* `Binary64.roundUnits_div` — a rounded quotient has the whole part of the quotient.
* `Figure.rank_eq_div` — so the place of a percentile is computed exactly.
* `Figure.percentile_eq` — which item a percentile is.
* `Figure.exists_isPercentile` — what that means for sorted items.
-/

namespace ArchiveCensus

/-! ## Whole parts of rounded quotients -/

/-- **A rounded quotient has the whole part of the quotient**: rounding neither lifts it to the next
whole number nor drops it below its own. -/
theorem Binary64.roundUnits_div {k d : Nat} (hd : 0 < d) (hd' : d ≤ 2 ^ 52) (hk : k < 2 ^ 52) :
    roundUnits (k * unitsPerOne) d / unitsPerOne = k / d := by
  have hquot : d * (k / d) + k % d = k := Nat.div_add_mod k d
  have hrest : k % d < d := Nat.mod_lt k hd
  have hsmall : k / d ≤ 2 ^ 53 := by
    have hle := Nat.div_le_self k d
    omega
  refine Nat.div_eq_of_lt_le ?_ ?_
  · refine le_roundUnits hd (Figure.significant_mul_unitsPerOne hsmall) ?_
    rw [Nat.mul_right_comm]
    exact Nat.mul_le_mul_right _ (Nat.div_mul_le_self k d)
  · -- the next whole number is a part in `d` above the quotient
    have hnext : k * unitsPerOne + unitsPerOne ≤ (k / d + 1) * unitsPerOne * d := by
      rw [← Nat.succ_mul, Nat.mul_right_comm]
      refine Nat.mul_le_mul_right _ ?_
      rw [Nat.mul_comm, Nat.mul_succ]
      omega
    have hround := (@roundUnits_bounds (k * unitsPerOne) d hd).1
    have hmove : k * unitsPerOne < 2 ^ 52 * unitsPerOne :=
      Nat.mul_lt_mul_of_pos_right hk unitsPerOne_pos
    have hlarge : 2 ^ 100 ≤ unitsPerOne := by decide +kernel
    refine Nat.lt_of_mul_lt_mul_right (a := d) ?_
    omega

namespace Figure

open Binary64

/-- **The place of a percentile is computed exactly.** -/
theorem rank_eq_div {last part : Nat} (hlast : last < 2 ^ 40) (hpart : part < 100) :
    rank last (.whole part) = .ok (last * part / 100 : Nat) := by
  have hproduct : last * part < 2 ^ 49 := by
    have hle := Nat.mul_le_mul_left last (Nat.le_of_lt hpart)
    omega
  have hend : last * part * unitsPerOne < overflowUnits :=
    Nat.lt_trans (Nat.mul_lt_mul_of_pos_right hproduct unitsPerOne_pos) units_lt_overflow
  have hless : last * part < overflowWhole := by
    rwa [← Nat.mul_lt_mul_right unitsPerOne_pos, ← overflowUnits_eq]
  have hsignificant : Significant (last * part * unitsPerOne) :=
    significant_mul_unitsPerOne (by omega)
  have hshare : roundUnits (last * part * unitsPerOne) 1 = last * part * unitsPerOne :=
    Nat.le_antisymm (roundUnits_le Nat.one_pos hsignificant (Nat.mul_one _).ge)
      (le_roundUnits Nat.one_pos hsignificant (Nat.mul_one _).le)
  rw [rank_eq_truncate hless, hshare, divNat, ofUnits_eq_finite false (by decide) (by omega),
    truncate, roundUnits_div (by decide) (by decide) (by omega)]
  rfl

/-! ## The item of a percentile -/

/-- The place of the `p`-th percentile among `n` items, in whole numbers. -/
def percentilePlace (n : Nat) (p : Int) : Nat :=
  if p ≤ 0 then 0 else if 100 ≤ p then n - 1 else (n - 1) * p.toNat / 100

theorem percentilePlace_le (n : Nat) (p : Int) : percentilePlace n p ≤ n - 1 := by
  unfold percentilePlace
  split_ifs
  · exact Nat.zero_le _
  · exact Nat.le_refl _
  · refine Nat.div_le_of_le_mul ?_
    rw [Nat.mul_comm]
    exact Nat.mul_le_mul_right _ (by omega)

/-- A greater part has no earlier place. -/
theorem percentilePlace_mono (n : Nat) {p q : Int} (h : p ≤ q) :
    percentilePlace n p ≤ percentilePlace n q := by
  by_cases hq : 100 ≤ q
  · have hlast : percentilePlace n q = n - 1 := by
      rw [percentilePlace, if_neg (by omega), if_pos hq]
    exact hlast ▸ percentilePlace_le n p
  · unfold percentilePlace
    split_ifs
    any_goals omega
    exact Nat.div_le_div_right (Nat.mul_le_mul_left _ (by omega))

/-- **Which item a percentile is**: the one in its place. -/
theorem percentile_eq {α : Type} {items : List α} (hne : items ≠ [])
    (hsize : items.length ≤ 2 ^ 40) (default : α) (p : Int) :
    percentile default items (.whole p) =
      .ok (items.getD (percentilePlace items.length p) default) := by
  have hpos : 0 < items.length := List.length_pos_iff.2 hne
  have hfull : ¬ items.isEmpty = true := by simpa using hne
  have hfirst : Number.whole p ≤ 0 ↔ p ≤ 0 := Number.whole_le_whole_iff
  have hlast : 100 ≤ Number.whole p ↔ 100 ≤ p := Number.whole_le_whole_iff
  rw [percentile, if_neg hfull, percentilePlace]
  simp only [hfirst, hlast]
  split_ifs with hlow hhigh
  · rw [List.headD_eq_head?_getD, List.head?_eq_getElem?, List.getD_eq_getElem?_getD]
  · rw [List.getLastD_eq_getLast?, List.getLast?_eq_getElem?, List.getD_eq_getElem?_getD]
  · obtain ⟨part, rfl⟩ := Int.eq_ofNat_of_zero_le (show 0 ≤ p by omega)
    have hplace := percentilePlace_le items.length part
    rw [percentilePlace, if_neg hlow, if_neg hhigh] at hplace
    rw [rank_eq_div (by omega) (by omega), Outcome.ok_bind]
    simp only [Int.toNat_natCast] at hplace ⊢
    rw [Nat.min_eq_left hplace]
    rfl

/-! ## Sorted items -/

/-- What stands later in sorted items is no less. -/
theorem le_of_getElem? {items : List Int} (hasc : items.Pairwise (· ≤ ·)) {i j : Nat} {a b : Int}
    (hij : i ≤ j) (ha : items[i]? = some a) (hb : items[j]? = some b) : a ≤ b := by
  obtain ⟨hi, rfl⟩ := List.getElem?_eq_some_iff.1 ha
  obtain ⟨hj, rfl⟩ := List.getElem?_eq_some_iff.1 hb
  obtain hless | rfl := Nat.lt_or_eq_of_le hij
  · exact List.pairwise_iff_getElem.1 hasc i j hi hj hless
  · exact Int.le_refl _

/-- At least the items up to a place are no greater than the one in it. -/
theorem lt_countP_le {items : List Int} (hasc : items.Pairwise (· ≤ ·)) {k : Nat} {v : Int}
    (h : items[k]? = some v) : k < items.countP fun a => decide (a ≤ v) := by
  have hlength : (items.take (k + 1)).length = k + 1 := by
    obtain ⟨hk, -⟩ := List.getElem?_eq_some_iff.1 h
    rw [List.length_take]
    omega
  have hall : (items.take (k + 1)).countP (fun a => decide (a ≤ v)) =
      (items.take (k + 1)).length := by
    refine List.countP_eq_length.2 fun a ha => ?_
    obtain ⟨i, hi⟩ := List.mem_iff_getElem?.1 ha
    rw [List.getElem?_take, Option.ite_none_right_eq_some] at hi
    exact decide_eq_true (le_of_getElem? hasc (Nat.le_of_lt_succ hi.1) hi.2 h)
  have hsome := (List.take_sublist (k + 1) items).countP_le (p := fun a => decide (a ≤ v))
  omega

/-- An item is the `p`-th percentile of sorted items: the first one for no part of them and the last
one for all, and between these the one in the exact place; at least as many items as that are no
greater. -/
structure IsPercentile (items : List Int) (p v : Int) : Prop where
  first : p ≤ 0 → items.head? = some v
  inner : 0 < p → p < 100 → items[(items.length - 1) * p.toNat / 100]? = some v
  last : 100 ≤ p → items.getLast? = some v
  mem : v ∈ items
  reaches : 0 < p → p < 100 →
    (items.length - 1) * p.toNat / 100 + 1 ≤ items.countP fun a => decide (a ≤ v)

/-- **The percentiles of sorted items are exact**, and a greater part has no lesser percentile. -/
theorem exists_isPercentile {items : List Int} (hne : items ≠ [])
    (hasc : items.Pairwise (· ≤ ·)) (hsize : items.length ≤ 2 ^ 40) (default : Int) :
    ∃ value : Int → Int, (∀ p q, p ≤ q → value p ≤ value q) ∧ ∀ p : Int,
      percentile default items (.whole p) = .ok (value p) ∧ IsPercentile items p (value p) := by
  have hpos : 0 < items.length := List.length_pos_iff.2 hne
  have hin : ∀ p, percentilePlace items.length p < items.length := fun p => by
    have hle := percentilePlace_le items.length p
    omega
  have hitem : ∀ p, items[percentilePlace items.length p]? =
      some (items.getD (percentilePlace items.length p) default) := fun p => by
    rw [List.getD_eq_getElem?_getD, List.getElem?_eq_getElem (hin p), Option.getD_some]
  refine ⟨fun p => items.getD (percentilePlace items.length p) default, fun p q hpq => ?_,
    fun p => ⟨percentile_eq hne hsize default p, ?_⟩⟩
  · exact le_of_getElem? hasc (percentilePlace_mono items.length hpq) (hitem p) (hitem q)
  · have hplace := hitem p
    have hinner : 0 < p → p < 100 →
        percentilePlace items.length p = (items.length - 1) * p.toNat / 100 := fun hlow hhigh => by
      rw [percentilePlace, if_neg (by omega), if_neg (by omega)]
    exact
      { first := fun hlow => by rw [← hplace, percentilePlace, if_pos hlow, List.head?_eq_getElem?]
        inner := fun hlow hhigh => hinner hlow hhigh ▸ hplace
        last := fun hhigh => by
          rw [← hplace, percentilePlace, if_neg (by omega), if_pos hhigh,
            List.getLast?_eq_getElem?]
        mem := List.mem_of_getElem? hplace
        reaches := fun hlow hhigh => hinner hlow hhigh ▸ lt_countP_le hasc hplace }

/-- Delays of one second to twenty. -/
def twentyDelays : List Int := (List.range' 1 20).map Int.ofNat

/-- The 95th percentile of twenty delays is the nineteenth. -/
theorem exists_isPercentile_twenty : ∃ v,
    percentile 0 twentyDelays 95 = .ok v ∧ IsPercentile twentyDelays 95 v ∧ v = 19 := by
  have hasc : twentyDelays.Pairwise (· ≤ ·) := by decide
  obtain ⟨value, -, hvalue⟩ := exists_isPercentile (by decide) hasc (by decide) 0
  obtain ⟨heq, his⟩ := hvalue 95
  exact ⟨value 95, heq, his, (Option.some.inj (his.inner (by decide) (by decide))).symm⟩

end Figure

end ArchiveCensus
