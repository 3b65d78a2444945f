import ArchiveCensus.Number.Basic
import ArchiveCensus.Proofs.Number.Rounding

/-!
# Proofs/Number/Order — numbers in order, and time that does not run backwards

Every number but `nan` has a place, and numbers with a place are ordered by it.  So the lesser and
the greater of two of them bound both, as long as neither is `nan`; and a clock that starts at zero
or later and never goes back has a place at any time.

* `Number.Placed` — a number that is not `nan`.
* `Number.max_le`, `Number.le_max_left`, `Number.min_le_right`, … — bounds of placed numbers.
* `Binary64.zero_le_add` — a clock that is not before zero stays so.
* `Binary64.placed_sub` — what is left until a placed time from a finite one is placed.
-/

namespace ArchiveCensus

/-! ## Places -/

namespace Binary64.Place

theorem not_before_self (p : Place) : p.before p = false := by
  cases p <;> simp [before]

/-- A place that is before another is not after it. -/
theorem not_before_of_before {p q : Place} (h : p.before q = true) : q.before p = false := by
  cases p <;> cases q <;> simp_all [before]
  omega

/-- What is not before a place is not before an earlier one. -/
theorem not_before_trans {p q r : Place} (hqp : q.before p = false) (hrq : r.before q = false) :
    r.before p = false := by
  cases p <;> cases q <;> cases r <;> simp_all [before]
  omega

end Binary64.Place

/-! ## Numbers with a place -/

namespace Number

/-- A number has a place: it is not `nan`. -/
def Placed (a : Number) : Prop := a.place?.isSome = true

variable {a b c : Number}

theorem placed_whole (z : Int) : (whole z).Placed := rfl

/-- A number is at most another if both have a place, and the other's is not before. -/
theorem le_iff_exists : a ≤ b ↔
    ∃ p q, a.place? = some p ∧ b.place? = some q ∧ q.before p = false := by
  show a.upTo b = true ↔ _
  rw [upTo]
  cases a.place? <;> cases b.place? <;> simp

theorem le_iff_of_place {p q : Binary64.Place} (ha : a.place? = some p) (hb : b.place? = some q) :
    a ≤ b ↔ q.before p = false := by
  simp [le_iff_exists, ha, hb]

theorem lt_iff_exists : a < b ↔
    ∃ p q, a.place? = some p ∧ b.place? = some q ∧ p.before q = true := by
  show a.before b = true ↔ _
  rw [before]
  cases a.place? <;> cases b.place? <;> simp

theorem Placed.le_refl (h : a.Placed) : a ≤ a := by
  obtain ⟨p, hp⟩ := Option.isSome_iff_exists.1 h
  exact le_iff_exists.2 ⟨p, p, hp, hp, p.not_before_self⟩

theorem le_of_lt (h : a < b) : a ≤ b := by
  obtain ⟨p, q, hp, hq, hpq⟩ := lt_iff_exists.1 h
  exact le_iff_exists.2 ⟨p, q, hp, hq, Binary64.Place.not_before_of_before hpq⟩

/-- Numbers with a place are in one order or the other. -/
theorem Placed.le_of_not_lt (ha : a.Placed) (hb : b.Placed) (h : ¬ a < b) : b ≤ a := by
  obtain ⟨p, hp⟩ := Option.isSome_iff_exists.1 ha
  obtain ⟨q, hq⟩ := Option.isSome_iff_exists.1 hb
  exact le_iff_exists.2 ⟨q, p, hq, hp,
    eq_false_of_ne_true fun hpq => h (lt_iff_exists.2 ⟨p, q, hp, hq, hpq⟩)⟩

theorem le_trans (hab : a ≤ b) (hbc : b ≤ c) : a ≤ c := by
  obtain ⟨p, q, hp, hq, hqp⟩ := le_iff_exists.1 hab
  obtain ⟨q', r, hq', hr, hrq⟩ := le_iff_exists.1 hbc
  obtain rfl : q = q' := Option.some.inj (hq.symm.trans hq')
  exact le_iff_exists.2 ⟨p, r, hp, hr, Binary64.Place.not_before_trans hqp hrq⟩

/-! ## The lesser and the greater of two -/

theorem max_eq (a b : Number) : max a b = if a < b then b else a := rfl

theorem min_eq (a b : Number) : min a b = if b < a then b else a := rfl

theorem le_max_left (ha : a.Placed) : a ≤ max a b := by
  rw [max_eq]
  split
  · next h => exact le_of_lt h
  · exact ha.le_refl

theorem le_max_right (ha : a.Placed) (hb : b.Placed) : b ≤ max a b := by
  rw [max_eq]
  split
  · exact hb.le_refl
  · next h => exact ha.le_of_not_lt hb h

theorem max_le (ha : a ≤ c) (hb : b ≤ c) : max a b ≤ c := by
  rw [max_eq]
  split
  · exact hb
  · exact ha

theorem min_le_left (ha : a.Placed) : min a b ≤ a := by
  rw [min_eq]
  split
  · next h => exact le_of_lt h
  · exact ha.le_refl

theorem min_le_right (ha : a.Placed) (hb : b.Placed) : min a b ≤ b := by
  rw [min_eq]
  split
  · exact hb.le_refl
  · next h => exact hb.le_of_not_lt ha h

end Number

/-! ## Doubles with a place -/

namespace Binary64

open Number

theorem placed_finite (negative : Bool) (units : Nat) :
    (double (finite negative units)).Placed := rfl

theorem placed_infinite (negative : Bool) : (double (infinite negative)).Placed := by
  cases negative <;> rfl

theorem placed_ofUnits (negative : Bool) (num den : Nat) :
    (double (ofUnits negative num den)).Placed := by
  rw [ofUnits]
  split
  · exact placed_finite ..
  · exact placed_infinite _

theorem placed_ofSigned (zeroSign : Bool) (units : Int) :
    (double (ofSigned zeroSign units)).Placed := by
  rw [ofSigned]
  split
  · exact placed_finite ..
  · exact placed_ofUnits ..

/-- Some time after a finite one has a place. -/
theorem placed_add {x y : Binary64} (hx : x.isFinite = true) (hy : (double y).Placed) :
    (double (x.add y)).Placed := by
  cases x with
  | finite s u =>
    cases y with
    | finite t v => exact placed_ofSigned ..
    | infinite t => exact placed_infinite t
    | nan => cases hy
  | infinite s => cases hx
  | nan => cases hx

/-- **What is left until a time from a finite one has a place.** -/
theorem placed_sub {x y : Binary64} (hx : x.isFinite = true) (hy : (double y).Placed) :
    (double (y.sub x)).Placed := by
  cases x with
  | finite s u =>
    cases y with
    | finite t v => exact placed_ofSigned ..
    | infinite t => exact placed_infinite t
    | nan => cases hy
  | infinite s => cases hx
  | nan => cases hx

theorem place?_zero : (0 : Number).place? = some (.at 0) := by
  show some (Place.at (0 * unitsPerOne)) = _
  rw [Int.zero_mul]

/-- What is not before zero is finite and has no negative units, or is the positive infinity. -/
theorem zero_le_iff {x : Binary64} :
    (0 : Number) ≤ double x ↔
      (∃ s u, x = finite s u ∧ 0 ≤ signed s u) ∨ x = infinite false := by
  rw [Number.le_iff_exists, place?_zero]
  cases x with
  | finite s u => cases s <;> simp [Number.place?, Binary64.place?, Place.before]
  | infinite s => cases s <;> simp [Number.place?, Binary64.place?, Place.before]
  | nan => simp [Number.place?, Binary64.place?]

theorem zero_le_ofUnits (num den : Nat) : (0 : Number) ≤ double (ofUnits false num den) := by
  rw [zero_le_iff, ofUnits]
  split
  · exact .inl ⟨_, _, rfl, Int.natCast_nonneg _⟩
  · exact .inr rfl

/-- **A clock that is not before zero stays so**, as long as time does not run backwards. -/
theorem zero_le_add {x y : Binary64} (hx : (0 : Number) ≤ double x) (hy : (0 : Number) ≤ double y) :
    (0 : Number) ≤ double (x.add y) := by
  obtain ⟨s, u, rfl, hu⟩ | rfl := zero_le_iff.1 hx
  · obtain ⟨t, v, rfl, hv⟩ | rfl := zero_le_iff.1 hy
    · rw [add, ofSigned]
      split
      · exact zero_le_iff.2 (.inl ⟨_, 0, rfl, by cases s && t <;> decide⟩)
      · rw [decide_eq_false (show ¬ signed s u + signed t v < 0 by omega)]
        exact zero_le_ofUnits ..
    · exact zero_le_iff.2 (.inr rfl)
  · obtain ⟨t, v, rfl, -⟩ | rfl := zero_le_iff.1 hy
    · exact zero_le_iff.2 (.inr rfl)
    · exact zero_le_iff.2 (.inr rfl)

end Binary64

namespace Number

variable {a : Number} {x : Binary64}

/-- A whole number as a double is rounded from its units. -/
theorem eq_ofUnits_of_asDouble? {z : Int} (h : (whole z).asDouble? = some x) :
    x = .ofUnits (z < 0) (z.natAbs * Binary64.unitsPerOne) 1 := by
  rw [asDouble?, Option.ite_none_right_eq_some] at h
  rw [← Option.some.inj h.2, Binary64.ofInt, Binary64.ofQuotient]

/-- A number with a place has one as a double. -/
theorem Placed.asDouble (h : a.Placed) (hx : a.asDouble? = some x) :
    (double x).Placed := by
  cases a with
  | double y =>
    cases hx
    exact h
  | whole z =>
    rw [eq_ofUnits_of_asDouble? hx]
    exact Binary64.placed_ofUnits ..

/-- Whole numbers are in order as they are. -/
theorem whole_le_whole_iff {y z : Int} : whole y ≤ whole z ↔ y ≤ z := by
  have hplace : ∀ z, (whole z).place? = some (.at (z * Binary64.unitsPerOne)) := fun _ => rfl
  have hpos : (0 : Int) < Binary64.unitsPerOne := Int.natCast_pos.2 Binary64.unitsPerOne_pos
  rw [le_iff_of_place (hplace y) (hplace z), Binary64.Place.before, decide_eq_false_iff_not,
    Int.not_lt]
  exact Int.mul_le_mul_right hpos

theorem zero_le_whole_iff {z : Int} : 0 ≤ whole z ↔ 0 ≤ z := whole_le_whole_iff

/-- A number that is not before zero is not so as a double. -/
theorem zero_le_asDouble (h : 0 ≤ a) (hx : a.asDouble? = some x) :
    (0 : Number) ≤ double x := by
  cases a with
  | double y =>
    cases hx
    exact h
  | whole z =>
    rw [eq_ofUnits_of_asDouble? hx, decide_eq_false (Int.not_lt.2 (zero_le_whole_iff.1 h))]
    exact Binary64.zero_le_ofUnits ..

end Number

end ArchiveCensus
