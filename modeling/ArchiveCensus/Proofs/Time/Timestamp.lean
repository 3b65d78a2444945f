import Mathlib.Data.List.Forall2
import Mathlib.Data.Option.Basic
import ArchiveCensus.Time.Timestamp
import ArchiveCensus.Proofs.Outcome
import ArchiveCensus.Proofs.Time.Calendar

/-!
# Proofs/Time/Timestamp — which timestamps lie outside the calendar

The fields of a timestamp are bounded by their layouts, so its time of day is shorter than a day,
and so is its offset.  An offset therefore leads out of the calendar from its first and its last day
alone.

* `sound_of_read?` — what is read exists.
* `Reading.Sound.instant?_eq_none_iff` — which readings denote no instant.
* `ofJson_outcome` — a document is a defect exactly if it is such a timestamp, and all else has an
  instant or is absent.
-/

namespace ArchiveCensus

theorem Instant.ofMicros?_eq_none_iff (m : Int) :
    Instant.ofMicros? m = none ↔ m < 0 ∨ (3652059 * microsPerDay : Nat) ≤ m := by
  unfold ofMicros?
  split
  · rename_i hrange
    exact ⟨fun hnone => (nomatch hnone), fun hout => by omega⟩
  · rename_i hrange
    exact ⟨fun _ => by omega, fun _ => rfl⟩

theorem Instant.ofMicros?_eq_some_iff {m : Int} {t : Instant} :
    ofMicros? m = some t ↔ (t.micros : Int) = m := by
  have hinRange := t.inRange
  unfold ofMicros?
  split
  · next hrange =>
    rw [Option.some.injEq]
    constructor
    · rintro rfl
      exact Int.toNat_of_nonneg hrange.1
    · rintro rfl
      rfl
  · next hout =>
    refine iff_of_false (fun hsome => nomatch hsome) ?_
    rintro rfl
    omega

namespace Timestamp

open Text

/-! ## Fields -/

/-- The digits of a class are no larger than a digit. -/
def UpTo (digit : DigitClass) (most : Nat) : Prop := ∀ c d, digit c = some d → d ≤ most

theorem upTo_digit : UpTo digit? 9 := fun _ _ h => Nat.le_of_lt_succ (digit?_lt h)

theorem upTo_asciiDigit : UpTo asciiDigit? 9 := fun c d h =>
  upTo_digit c d (digit?_of_asciiDigit? h)

theorem upTo_between (low high : Nat) : UpTo (between low high) high := by
  intro c d h
  obtain ⟨-, hd⟩ := Option.filter_eq_some_iff.1 h
  have hbounds : low ≤ d ∧ d ≤ high := by simpa using hd
  exact hbounds.2

/-- The largest number that a layout may have after a number. -/
def largest (value : Nat) : List Nat → Nat
  | [] => value
  | d :: most => largest (value * 10 + d) most

theorem largest_mono {value value' : Nat} (h : value ≤ value') :
    ∀ most, largest value most ≤ largest value' most
  | [] => h
  | _ :: most => largest_mono (by omega) most

/-- **Digits make up no more than the largest of each place.** -/
theorem readDigits_le {layout : List DigitClass} {most : List Nat}
    (h : List.Forall₂ UpTo layout most) :
    ∀ {value n : Nat} {cs rest : List Char}, readDigits value layout cs = some (n, rest) →
      n ≤ largest value most := by
  induction h with
  | nil =>
    intro value n cs rest hread
    cases hread
    exact Nat.le_refl _
  | @cons digit most layout mosts hdigit _ ih =>
    intro value n cs rest hread
    cases cs with
    | nil => cases hread
    | cons c cs =>
      rw [readDigits] at hread
      cases hd : digit c with
      | none =>
        rw [hd] at hread
        cases hread
      | some d =>
        rw [hd] at hread
        have hle := hdigit c d hd
        rw [largest]
        exact Nat.le_trans (ih hread) (largest_mono (by omega) mosts)

/-- Layouts whose numbers are no larger than a number. -/
def LayoutsUpTo (layouts : List (List DigitClass)) (bound : Nat) : Prop :=
  ∀ layout ∈ layouts, ∃ most, List.Forall₂ UpTo layout most ∧ largest 0 most ≤ bound

/-- A field is no larger than its layouts allow, -/
theorem readField_le {layouts : List (List DigitClass)} {bound : Nat}
    (h : LayoutsUpTo layouts bound) {stop : Char → Bool} {cs rest : List Char} {n : Nat}
    (hread : readField layouts stop cs = some (n, rest)) : n ≤ bound := by
  obtain ⟨layout, hlayout, hfound⟩ := List.exists_of_findSome?_eq_some hread
  obtain ⟨most, hmost, hbound⟩ := h layout hlayout
  split at hfound
  · rename_i hdigits
    split at hfound
    · cases hfound
      exact Nat.le_trans (readDigits_le hmost hdigits) hbound
    · cases hfound
  · cases hfound

/-- with its mark or without. -/
theorem readMarked_le {layouts : List (List DigitClass)} {bound : Nat}
    (h : LayoutsUpTo layouts bound) {mark : Char → Bool} {cs rest : List Char} {n : Nat}
    (hread : readMarked layouts mark cs = some (n, rest)) : n ≤ bound := by
  obtain ⟨⟨m, rest'⟩, hfield, hsame⟩ := Option.map_eq_some_iff.1 hread
  cases hsame
  exact readField_le h hfield

theorem hourLayouts_upTo : LayoutsUpTo hourLayouts 23 := by
  simp only [LayoutsUpTo, hourLayouts, List.forall_mem_cons]
  exact ⟨⟨[2, 3], .cons (upTo_between 2 2) (.cons (upTo_between 0 3) .nil), by decide⟩,
    ⟨[1, 9], .cons (upTo_between 0 1) (.cons upTo_digit .nil), by decide⟩,
    ⟨[9], .cons upTo_digit .nil, by decide⟩, fun _ hnone => nomatch hnone⟩

theorem minuteLayouts_upTo : LayoutsUpTo minuteLayouts 59 := by
  simp only [LayoutsUpTo, minuteLayouts, List.forall_mem_cons]
  exact ⟨⟨[5, 9], .cons (upTo_between 0 5) (.cons upTo_digit .nil), by decide⟩,
    ⟨[9], .cons upTo_digit .nil, by decide⟩, fun _ hnone => nomatch hnone⟩

/-! ## Fractions -/

/-- Digits that stand at the front make up less than their power of ten. -/
theorem leadingDigits_lt {digit : DigitClass} (hdigit : UpTo digit 9) :
    ∀ (most value count : Nat) (cs : List Char), value < Nat.pow 10 count →
      (leadingDigits digit value count most cs).1 <
          Nat.pow 10 (leadingDigits digit value count most cs).2.1 ∧
        (leadingDigits digit value count most cs).2.1 ≤ count + most
  | 0, _, _, _, h => ⟨h, Nat.le_refl _⟩
  | _ + 1, _, _, [], h => ⟨h, Nat.le_add_right _ _⟩
  | most + 1, value, count, c :: cs, h => by
    rw [leadingDigits]
    split
    · rename_i d hd
      have hle := hdigit c d hd
      have hnext : value * 10 + d < Nat.pow 10 (count + 1) := by
        have hpow : Nat.pow 10 (count + 1) = Nat.pow 10 count * 10 := rfl
        omega
      have ih := leadingDigits_lt hdigit most _ _ cs hnext
      exact ⟨ih.1, Nat.le_trans ih.2 (by omega)⟩
    · exact ⟨h, Nat.le_add_right _ _⟩

theorem microsPerSecond_pos : 0 < microsPerSecond := by decide

/-- **A fraction is shorter than a second.** -/
theorem readFraction_lt {digit : DigitClass} (hdigit : UpTo digit 9) {cs rest : List Char}
    {micros : Nat} (h : readFraction digit cs = some (micros, rest)) :
    micros < microsPerSecond := by
  have hleading := leadingDigits_lt hdigit 6 0 0 cs Nat.one_pos
  unfold readFraction at h
  split at h
  · cases h
  · rename_i value count _ _ hread
    rw [hread] at hleading
    cases h
    calc value * Nat.pow 10 (6 - count)
        < Nat.pow 10 count * Nat.pow 10 (6 - count) :=
          Nat.mul_lt_mul_of_pos_right hleading.1 (Nat.pow_pos (by decide))
      _ = microsPerSecond := by
          rw [Nat.pow_eq, Nat.pow_eq, ← Nat.pow_add,
            Nat.add_sub_cancel' (by simpa using hleading.2)]
          rfl

/-! ## Zones -/

/-- **An offset is shorter than a day.** -/
theorem readZone_bounds {cs : List Char} {offset : Int} (h : readZone cs = some offset) :
    -microsPerDay < offset ∧ offset < microsPerDay := by
  unfold readZone at h
  split at h
  · cases h
    decide
  · split at h
    · simp only [Option.bind_eq_bind, Option.bind_eq_some_iff, Option.pure_def,
        Option.some.injEq] at h
      obtain ⟨magnitude, -, _, hguard, hsigned⟩ := h
      have hless : magnitude < microsPerDay := (Option.guard_eq_some' _).1 hguard
      split at hsigned <;> omega
    · cases h
  · cases h

/-! ## Readings -/

/-- A reading whose date, time and offset exist. -/
structure Reading.Sound (r : Reading) : Prop where
  date : r.date.Exists
  micros : r.micros < microsPerDay
  behind : -microsPerDay < r.offset
  ahead : r.offset < microsPerDay

/-- What comes of a time of day. -/
theorem sound_of_fields {date : Date} {hour minute second fraction : Nat} {offset : Int}
    (hhour : hour ≤ 23) (hminute : minute ≤ 59) (hfraction : fraction < microsPerSecond)
    (hoffset : -microsPerDay < offset ∧ offset < microsPerDay)
    (hexists : date.Exists ∧ second < 60) :
    (Reading.mk date (((hour * 60 + minute) * 60 + second) * microsPerSecond + fraction)
      offset).Sound where
  date := hexists.1
  micros := by
    have hseconds : (hour * 60 + minute) * 60 + second + 1 ≤ 86400 := by omega
    calc ((hour * 60 + minute) * 60 + second) * microsPerSecond + fraction
        < ((hour * 60 + minute) * 60 + second + 1) * microsPerSecond := by
          rw [Nat.add_mul _ 1]
          omega
      _ ≤ 86400 * microsPerSecond := Nat.mul_le_mul_right _ hseconds
  behind := hoffset.1
  ahead := hoffset.2

/-- **What is read exists.** -/
theorem sound_of_read? {cs : List Char} {r : Reading} (h : read? cs = some r) : r.Sound := by
  simp only [read?, Option.bind_eq_bind, Option.bind_eq_some_iff, Prod.exists,
    Option.pure_def] at h
  obtain ⟨_, _, -, _, _, -, _, _, -, _, _, hhour, _, _, hminute, _, _, -, hrest⟩ := h
  have hhour := readMarked_le hourLayouts_upTo hhour
  have hminute := readMarked_le minuteLayouts_upTo hminute
  split at hrest
  · simp only [Option.bind_eq_some_iff, Prod.exists, Option.some.injEq] at hrest
    obtain ⟨_, _, hfraction, _, hzone, _, hguard, rfl⟩ := hrest
    exact sound_of_fields hhour hminute (readFraction_lt upTo_asciiDigit hfraction)
      (readZone_bounds hzone) ((Option.guard_eq_some' _).1 hguard)
  · simp only [Option.bind_eq_some_iff, Option.some.injEq] at hrest
    obtain ⟨_, rfl, _, hzone, _, hguard, rfl⟩ := hrest
    exact sound_of_fields hhour hminute microsPerSecond_pos (readZone_bounds hzone)
      ((Option.guard_eq_some' _).1 hguard)

/-- A reading that denotes no instant: its offset leads out of the first day or out of the last
one. -/
def Reading.Outside (r : Reading) : Prop :=
  r.date = Date.first ∧ (r.micros : Int) < r.offset ∨
    r.date = Date.last ∧ (microsPerDay : Int) ≤ r.micros - r.offset

/-- **An offset leads out of the calendar from its ends alone.** -/
theorem Reading.Sound.instant?_eq_none_iff {r : Reading} (h : r.Sound) :
    r.instant? = none ↔ r.Outside := by
  obtain ⟨hdate, hmicros, hbehind, hahead⟩ := h
  have hday := hdate.dayNumber_lt
  rw [Outside, ← hdate.dayNumber_eq_zero_iff, ← hdate.dayNumber_eq_last_iff, instant?,
    Instant.ofDay?, Instant.ofMicros?_eq_none_iff]
  simp only [microsPerDay, microsPerSecond] at *
  omega

/-! ## Documents -/

/-- What a document says, if it is the text of a timestamp. -/
def reading? (j : Json) : Option Reading := read? (shorten j.label.toList)

/-- The instant of a document that is the text of a timestamp and denotes one. -/
def instant? (j : Json) : Option Instant := (reading? j).bind Reading.instant?

/-- Whether a document is the text of a timestamp that denotes no instant. -/
def Strays (j : Json) : Prop := ∃ r, reading? j = some r ∧ r.Outside

/-- **What becomes of a document**: a defect where it strays, and else its instant, which is absent
where it has none. -/
theorem ofJson_outcome (j : Json) :
    Strays j ∧ ofJson j = .error .dateOutOfRange ∨ ¬ Strays j ∧ ofJson j = .ok (instant? j) := by
  rw [ofJson, ofLabel, ← reading?, instant?, Strays]
  cases hread : reading? j with
  | none => exact .inr ⟨fun ⟨_, hr, _⟩ => (nomatch hr), rfl⟩
  | some r =>
    have houtside := (sound_of_read? hread).instant?_eq_none_iff
    cases hinstant : r.instant? with
    | none =>
      refine .inl ⟨⟨r, rfl, houtside.1 hinstant⟩, ?_⟩
      simp only [hinstant]
    | some t =>
      refine .inr ⟨?_, ?_⟩
      · rintro ⟨r', hsame, hout⟩
        rw [← Option.some.inj hsame, ← houtside, hinstant] at hout
        cases hout
      · simp only [Option.bind_some, hinstant]

end Timestamp

end ArchiveCensus
