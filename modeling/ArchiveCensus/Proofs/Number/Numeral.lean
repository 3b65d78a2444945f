import ArchiveCensus.Number.Numeral
import ArchiveCensus.Proofs.Text.Decimal
import ArchiveCensus.Proofs.Text.Padding

/-!
# Proofs/Number/Numeral — a whole number is read from its text

The decimal text of a whole number has a sign or none, and a run of digits that has no end before
the text has.  So it is read as the number, and rounded as the number is: the nearest double is the
same, however many digits there are.

* `extend_digitChars` — a run of digits takes in digits as they stand.
* `decimalNumber?_wholeText` — the text of a whole number is read as the double nearest to it.
-/

namespace ArchiveCensus

open Text

/-! ## Digits -/

/-- **The digits of a number make it up**, and there is one of them at least. -/
theorem Text.exists_digits (n : Nat) : ∃ (d : Fin 10) (digits : List (Fin 10)),
    Binary64.digitsOf n = digitChars (d :: digits) ∧ valueAfter d digits = n := by
  induction n using Nat.strongRecOn with
  | ind n ih =>
    rcases Nat.lt_or_ge n 10 with hn | hn
    · exact ⟨⟨n, hn⟩, [], digitsOf_of_lt hn, rfl⟩
    · obtain ⟨d, digits, hdigits, hvalue⟩ := ih (n / 10) (by omega)
      refine ⟨d, digits ++ [⟨n % 10, Nat.mod_lt n (by decide)⟩], ?_, ?_⟩
      · rw [digitsOf_of_le hn, hdigits, ← List.cons_append, digitChars, digitChars,
          List.map_append, List.map_singleton]
      · rw [valueAfter_append, hvalue]
        exact Nat.div_add_mod' n 10

/-- No digit is a sign, or a letter of the words for the other doubles; and none is padding. -/
theorem Text.digitChar_ne : ∀ d : Fin 10, digitChar d ≠ '-' ∧ digitChar d ≠ '+' ∧
    Numeral.asciiLower (digitChar d) ≠ 'i' ∧ Numeral.asciiLower (digitChar d) ≠ 'n' ∧
      isPadding (digitChar d) = false := by decide

namespace Number

/-- The text of a whole number is its sign, if it is negative, and its digits. -/
theorem wholeText_eq (z : Int) :
    wholeText z = (if z < 0 then ['-'] else []) ++ Binary64.digitsOf z.natAbs := by
  rw [wholeText]
  split <;> rfl

/-- There is no padding in the text of a whole number. -/
theorem not_padding_of_mem_wholeText {z : Int} {c : Char} (h : c ∈ wholeText z) :
    isPadding c = false := by
  rw [wholeText_eq, List.mem_append] at h
  obtain hsign | hdigit := h
  · split at hsign
    · rw [List.mem_singleton.1 hsign]
      rfl
    · exact absurd hsign List.not_mem_nil
  · obtain ⟨d, rfl⟩ := exists_of_mem_digitsOf hdigit
    exact (digitChar_ne d).2.2.2.2

end Number

namespace Numeral

/-! ## Runs of digits -/

/-- **A run takes in digits as they stand.** -/
theorem extend_digitChars : ∀ (digits : List (Fin 10)) (value count : Nat),
    extend digit? value count (digitChars digits) =
      ⟨valueAfter value digits, count + digits.length, []⟩
  | [], _, _ => rfl
  | [d], value, count => by
    rw [digitChars_cons, digitChars_nil, extend, digit?_digitChar d.isLt]
    rfl
  | d :: d' :: digits, value, count => by
    rw [digitChars_cons, digitChars_cons, extend, digit?_digitChar d.isLt]
    dsimp only
    rw [← digitChars_cons, extend_digitChars (d' :: digits), valueAfter_cons value, Nat.add_assoc,
      Nat.add_comm 1]
    rfl

/-- The digits of a number are a run that makes it up, with nothing behind it. -/
theorem exists_run?_digitsOf (n : Nat) :
    ∃ count, run? digit? (Binary64.digitsOf n) = some ⟨n, count, []⟩ := by
  obtain ⟨d, digits, hdigits, hvalue⟩ := exists_digits n
  refine ⟨1 + digits.length, ?_⟩
  rw [hdigits, digitChars_cons, run?, digit?_digitChar d.isLt, Option.map_some,
    extend_digitChars, hvalue]

theorem mantissa?_digitsOf (n : Nat) : mantissa? (Binary64.digitsOf n) = some (n, 0, []) := by
  obtain ⟨count, hrun⟩ := exists_run?_digitsOf n
  unfold mantissa?
  rw [hrun]

/-! ## Texts of whole numbers -/

/-- What starts with a digit has no sign in front. -/
theorem sign_digitsOf (n : Nat) : sign (Binary64.digitsOf n) = (false, Binary64.digitsOf n) := by
  obtain ⟨d, digits, hdigits, -⟩ := exists_digits n
  rw [hdigits, digitChars_cons]
  exact sign.eq_3 _ (fun _ h => (digitChar_ne d).1 (List.cons.inj h).1)
    fun _ h => (digitChar_ne d).2.1 (List.cons.inj h).1

theorem sign_wholeText (z : Int) :
    sign (Number.wholeText z) = (decide (z < 0), Binary64.digitsOf z.natAbs) := by
  rw [Number.wholeText_eq]
  by_cases hz : z < 0
  · rw [if_pos hz, decide_eq_true hz]
    rfl
  · rw [if_neg hz, decide_eq_false hz, List.nil_append, sign_digitsOf]

/-- The digits of a number are none of the words for the other doubles. -/
theorem digitsOf_ne_word (n : Nat) {first : Char} {word : List Char}
    (hfirst : first = 'i' ∨ first = 'n') :
    String.ofList ((Binary64.digitsOf n).map asciiLower) ≠ String.ofList (first :: word) := by
  obtain ⟨d, digits, hdigits, -⟩ := exists_digits n
  intro h
  rw [String.ofList_inj, hdigits, digitChars_cons, List.map_cons] at h
  obtain rfl | rfl := hfirst
  · exact (digitChar_ne d).2.2.1 (List.cons.inj h).1
  · exact (digitChar_ne d).2.2.2.1 (List.cons.inj h).1

/-- Nothing is rounded to zero, with the sign that it has. -/
theorem ofUnits_zero (negative : Bool) : Binary64.ofUnits negative 0 1 = .finite negative 0 := by
  have hlimit : 0 < Binary64.unitsLimit := by
    unfold Binary64.unitsLimit
    generalize 2098 = e
    exact Nat.two_pow_pos e
  have hround : Binary64.roundUnits 0 1 = 0 := rfl
  simp only [Binary64.ofUnits, hround, hlimit, if_true]

/-- Digits without an exponent are rounded as they stand. -/
theorem ofDecimal_zero (negative : Bool) (digits : Nat) : Binary64.ofDecimal negative digits 0 =
    .ofUnits negative (digits * Binary64.unitsPerOne) 1 := by
  unfold Binary64.ofDecimal
  split
  · next hdigits => rw [hdigits, Nat.zero_mul, ofUnits_zero]
  · show (if 0 > 400 then _ else
      Binary64.ofUnits negative (digits * 1 * Binary64.unitsPerOne) 1) = _
    rw [if_neg (by decide), Nat.mul_one]

/-- **The text of a whole number is read as the double nearest to it**, however many digits it
has. -/
theorem decimalNumber?_wholeText (z : Int) :
    decimalNumber? (Number.wholeText z) = some (.ofInt z) := by
  have hblank : ∀ c ∈ Number.wholeText z, isBlank c = false := by
    intro c hc
    refine eq_false_of_ne_true fun hblank => ?_
    have hpadding := Number.not_padding_of_mem_wholeText hc
    rw [isPadding_of_isBlank hblank] at hpadding
    cases hpadding
  rw [decimalNumber?, (edgesFree_of_forall hblank).strip_eq, sign_wholeText]
  dsimp only
  split
  · next hword => exact absurd hword (digitsOf_ne_word _ (.inl rfl))
  · next hword => exact absurd hword (digitsOf_ne_word _ (.inl rfl))
  · next hword => exact absurd hword (digitsOf_ne_word _ (.inr rfl))
  · rw [mantissa?_digitsOf]
    exact congrArg some (ofDecimal_zero _ z.natAbs)

end Numeral

end ArchiveCensus
