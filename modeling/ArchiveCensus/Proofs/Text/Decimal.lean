import Mathlib.Algebra.Ring.Nat
import ArchiveCensus.Text.Digit
import ArchiveCensus.Number.Shortest

/-!
# Proofs/Text/Decimal — numbers in decimal digits

A number has digits of its own, as many as it needs, or some digits are kept for it.  Either way
they are characters that are read as digits, and make up the number.

* `digit?_digitChar` — the character of a digit is read as the digit.
* `valueAfter_lastDigits` — the last digits of a number make it up, if it has no more.
* `length_digitsOf_le_iff` — how many digits a number needs.
-/

namespace ArchiveCensus.Text

/-! ## Characters -/

theorem toNat_digitChar : ∀ d < 10, (digitChar d).toNat = 0x30 + d := by decide

theorem asciiDigit?_digitChar {d : Nat} (h : d < 10) : asciiDigit? (digitChar d) = some d := by
  rw [asciiDigit?, toNat_digitChar d h, if_pos (by omega), Nat.add_sub_cancel_left]

theorem digit?_digitChar {d : Nat} (h : d < 10) : digit? (digitChar d) = some d :=
  digit?_of_asciiDigit? (asciiDigit?_digitChar h)

/-- The characters of some digits. -/
def digitChars (digits : List (Fin 10)) : List Char := digits.map fun d : Fin 10 => digitChar d

@[simp] theorem digitChars_nil : digitChars [] = [] := rfl

@[simp] theorem digitChars_cons (d : Fin 10) (digits : List (Fin 10)) :
    digitChars (d :: digits) = digitChar d :: digitChars digits := rfl

/-! ## Values -/

/-- The number whose digits follow those of another number. -/
def valueAfter (n : Nat) (digits : List (Fin 10)) : Nat :=
  digits.foldl (fun n (d : Fin 10) => n * 10 + d.val) n

@[simp] theorem valueAfter_nil (n : Nat) : valueAfter n [] = n := rfl

@[simp] theorem valueAfter_cons (n : Nat) (d : Fin 10) (digits : List (Fin 10)) :
    valueAfter n (d :: digits) = valueAfter (n * 10 + d) digits := rfl

theorem valueAfter_append (n : Nat) (digits more : List (Fin 10)) :
    valueAfter n (digits ++ more) = valueAfter (valueAfter n digits) more := by
  rw [valueAfter, List.foldl_append, valueAfter, valueAfter]

theorem valueAfter_replicate (n k : Nat) :
    valueAfter n (List.replicate k 0) = n * Nat.pow 10 k := by
  induction k generalizing n with
  | zero => exact (Nat.mul_one n).symm
  | succ k ih =>
    rw [List.replicate_succ, valueAfter_cons, ih, Nat.pow_eq, Nat.pow_eq, Nat.pow_succ']
    simp [Nat.mul_assoc]

theorem valueAfter_lt (n : Nat) (digits : List (Fin 10)) :
    valueAfter n digits < (n + 1) * 10 ^ digits.length := by
  induction digits generalizing n with
  | nil => simp
  | cons d digits ih =>
    have hd := d.isLt
    calc valueAfter (n * 10 + d) digits
        < (n * 10 + d + 1) * 10 ^ digits.length := ih _
      _ ≤ (n + 1) * 10 * 10 ^ digits.length := Nat.mul_le_mul_right _ (by omega)
      _ = (n + 1) * 10 ^ (d :: digits).length := by
        rw [List.length_cons, Nat.pow_succ', Nat.mul_assoc]

/-! ## Fixed widths -/

/-- A number below a hundred in two digits. -/
def twoDigits (n : Nat) : List Char := [digitChar (n / 10), digitChar (n % 10)]

/-- A number below ten thousand in four digits. -/
def fourDigits (n : Nat) : List Char := twoDigits (n / 100) ++ twoDigits (n % 100)

/-- Two digits are digits. -/
theorem exists_of_mem_twoDigits {n : Nat} (h : n < 100) {c : Char} (hc : c ∈ twoDigits n) :
    ∃ d : Fin 10, c = digitChar d := by
  rcases List.mem_cons.1 hc with rfl | hc
  · exact ⟨⟨n / 10, by omega⟩, rfl⟩
  · exact ⟨⟨n % 10, by omega⟩, List.mem_singleton.1 hc⟩

/-- The last digits of a number, as many as are asked for. -/
def lastDigits : Nat → Nat → List (Fin 10)
  | 0, _ => []
  | width + 1, n => lastDigits width (n / 10) ++ [⟨n % 10, Nat.mod_lt n (by decide)⟩]

theorem lastDigits_succ (width n : Nat) : lastDigits (width + 1) n =
    lastDigits width (n / 10) ++ [⟨n % 10, Nat.mod_lt n (by decide)⟩] := rfl

theorem length_lastDigits (width n : Nat) : (lastDigits width n).length = width := by
  induction width generalizing n with
  | zero => rfl
  | succ width ih => rw [lastDigits, List.length_append, ih, List.length_singleton]

theorem valueAfter_lastDigits {width n : Nat} (h : n < 10 ^ width) :
    valueAfter 0 (lastDigits width n) = n := by
  induction width generalizing n with
  | zero => exact (Nat.lt_one_iff.1 h).symm
  | succ width ih =>
    have hrest : n / 10 < 10 ^ width := Nat.div_lt_of_lt_mul (by rwa [Nat.pow_succ'] at h)
    rw [lastDigits, valueAfter_append, ih hrest]
    exact Nat.div_add_mod' n 10

/-! ## Whole numbers -/

theorem natDigitChar_eq : ∀ d < 10, Nat.digitChar d = digitChar d := by decide

theorem digitsOf_of_lt {n : Nat} (h : n < 10) : Binary64.digitsOf n = [digitChar n] := by
  rw [Binary64.digitsOf, Nat.toDigits_of_lt_base h, natDigitChar_eq n h]

theorem digitsOf_of_le {n : Nat} (h : 10 ≤ n) :
    Binary64.digitsOf n = Binary64.digitsOf (n / 10) ++ [digitChar (n % 10)] := by
  rw [Binary64.digitsOf, Nat.toDigits_of_base_le (by decide) h,
    natDigitChar_eq _ (Nat.mod_lt n (by decide)), Binary64.digitsOf]

theorem exists_of_mem_digitsOf {n : Nat} {c : Char} (h : c ∈ Binary64.digitsOf n) :
    ∃ d : Fin 10, c = digitChar d := by
  induction n using Nat.strongRecOn with
  | ind n ih =>
    rcases Nat.lt_or_ge n 10 with hn | hn
    · rw [digitsOf_of_lt hn, List.mem_singleton] at h
      exact ⟨⟨n, hn⟩, h⟩
    · rw [digitsOf_of_le hn, List.mem_append, List.mem_singleton] at h
      rcases h with h | h
      · exact ih (n / 10) (by omega) h
      · exact ⟨⟨n % 10, Nat.mod_lt n (by decide)⟩, h⟩

theorem length_digitsOf_le_iff {n k : Nat} (hk : 0 < k) :
    (Binary64.digitsOf n).length ≤ k ↔ n < 10 ^ k :=
  Nat.length_toDigits_le_iff (by decide) hk

end ArchiveCensus.Text
