import ArchiveCensus.Proofs.Text.Padding
import ArchiveCensus.Proofs.Time.Clock
import ArchiveCensus.Proofs.Time.Timestamp

/-!
# Proofs/Time/Written — written timestamps are read

A timestamp is written with two digits for each field, four for the year, a fraction of any length,
and a zone.  Each field is read by the first of its layouts that fits, and a written field fits no
layout before the one that reads it whole; of a long fraction six digits are left when it is read.

* `read?_text` — what is read of a clock and a zone is what they show.
* `read?_text_eq_none` — nothing is read of a clock without a zone.
* `ofJson_written` — so a written timestamp is read as its instant, whatever padding is around it.
-/

namespace ArchiveCensus

open Text

/-! ## Texts -/

namespace Clock

/-- A fraction after its point; nothing where there are no digits. -/
def fractionText : List (Fin 10) → List Char
  | [] => []
  | digits => '.' :: digitChars digits

/-- A date and a time of day, to the second. -/
def secondsText (c : Clock) : List Char :=
  fourDigits c.date.year ++ '-' :: twoDigits c.date.month ++ '-' :: twoDigits c.date.day ++
    'T' :: twoDigits c.hour ++ ':' :: twoDigits c.minute ++ ':' :: twoDigits c.second

/-- What a clock shows, as it is written in front of a zone. -/
def text (c : Clock) : List Char := c.secondsText ++ fractionText c.fraction

end Clock

/-- A zone: UTC, or an offset ahead of it or behind it, with a colon or without. -/
inductive Zone where
  | utc
  | offset (behind colon : Bool) (hours : Fin 24) (minutes : Fin 60)

namespace Zone

/-- A zone as it is written. -/
def text : Zone → List Char
  | utc => ['Z']
  | offset behind colon hours minutes =>
      (if behind then '-' else '+') ::
        (twoDigits hours ++ ((if colon then [':'] else []) ++ twoDigits minutes))

/-- The microseconds of an offset, without its sign. -/
def length (hours : Fin 24) (minutes : Fin 60) : Nat :=
  (hours * 60 + minutes) * 60 * microsPerSecond

/-- The microseconds that a clock of the zone is ahead of UTC. -/
def micros : Zone → Int
  | utc => 0
  | offset true _ hours minutes => -(length hours minutes : Int)
  | offset false _ hours minutes => length hours minutes

end Zone

namespace Timestamp

/-! ## Fields -/

theorem between_digitChar {d low high : Nat} (h : low ≤ d ∧ d ≤ high ∧ d < 10) :
    between low high (digitChar d) = some d := by
  rw [between, asciiDigit?_digitChar h.2.2, Option.filter_some]
  simp [h]

theorem between_digitChar_eq_none {d low high : Nat} (h : (d < low ∨ high < d) ∧ d < 10) :
    between low high (digitChar d) = none := by
  rw [between, asciiDigit?_digitChar h.2, Option.filter_some, if_neg]
  simp only [Bool.and_eq_true, decide_eq_true_eq]
  omega

section

variable {tens units : DigitClass} {layout : List DigitClass} {n : Nat} {rest : List Char}

/-- Two digits are read one after the other, -/
theorem readDigits_twoDigits (value : Nat) (htens : tens (digitChar (n / 10)) = some (n / 10))
    (hunits : units (digitChar (n % 10)) = some (n % 10)) :
    readDigits value (tens :: units :: layout) (twoDigits n ++ rest) =
      readDigits (value * 100 + n) layout rest := by
  have hvalue : (value * 10 + n / 10) * 10 + n % 10 = value * 100 + n := by omega
  simp only [twoDigits, List.cons_append, List.nil_append, readDigits, htens, hunits, hvalue]

/-- and make up their number, -/
theorem readDigits_two (htens : tens (digitChar (n / 10)) = some (n / 10))
    (hunits : units (digitChar (n % 10)) = some (n % 10)) :
    readDigits 0 [tens, units] (twoDigits n ++ rest) = some (n, rest) := by
  rw [readDigits_twoDigits 0 htens hunits, Nat.zero_mul, Nat.zero_add, readDigits]

/-- but they fit no layout that the first of them does not fit. -/
theorem readDigits_two_eq_none (htens : tens (digitChar (n / 10)) = none) :
    readDigits 0 (tens :: layout) (twoDigits n ++ rest) = none := by
  simp only [twoDigits, List.cons_append, readDigits, htens]

end

section

variable {tens units : DigitClass} {layout : List DigitClass} {layouts : List (List DigitClass)}
  {stop : Char → Bool} {cs rest : List Char} {c : Char} {n : Nat}

/-- A field is read by its first layout if that fits, -/
theorem readField_of_fits (hstop : stop c = true) (h : readDigits 0 layout cs = some (n, c :: rest)) :
    readField (layout :: layouts) stop cs = some (n, c :: rest) := by
  rw [readField, List.findSome?_cons, h]
  simp [hstop]

/-- so two digits are read by a layout of two that they fit, -/
theorem readField_two (hstop : stop c = true) (htens : tens (digitChar (n / 10)) = some (n / 10))
    (hunits : units (digitChar (n % 10)) = some (n % 10)) :
    readField ([tens, units] :: layouts) stop (twoDigits n ++ c :: rest) =
      some (n, c :: rest) :=
  readField_of_fits hstop (readDigits_two htens hunits)

/-- and by the other layouts if their tens do not fit. -/
theorem readField_of_other_tens (htens : tens (digitChar (n / 10)) = none) :
    readField ((tens :: layout) :: layouts) stop (twoDigits n ++ c :: rest) =
      readField layouts stop (twoDigits n ++ c :: rest) := by
  rw [readField, List.findSome?_cons, readDigits_two_eq_none htens, readField]

theorem readMarked_of_readField (h : readField layouts stop cs = some (n, c :: rest)) :
    readMarked layouts stop cs = some (n, rest) := by
  rw [readMarked, h]
  rfl

/-- **A year is read.** -/
theorem readField_year (h : n < 10000) (hstop : stop c = true) :
    readField yearLayouts stop (fourDigits n ++ c :: rest) = some (n, c :: rest) := by
  refine readField_of_fits hstop ?_
  have hdigits : ∀ k < 100, digit? (digitChar (k / 10)) = some (k / 10) ∧
      digit? (digitChar (k % 10)) = some (k % 10) := fun k hk =>
    ⟨digit?_digitChar (by omega), digit?_digitChar (by omega)⟩
  have hhigh := hdigits (n / 100) (by omega)
  have hlow := hdigits (n % 100) (by omega)
  rw [fourDigits, List.append_assoc, readDigits_twoDigits 0 hhigh.1 hhigh.2,
    readDigits_twoDigits _ hlow.1 hlow.2, readDigits]
  congr 2
  omega

/-- **A month is read**, from October on by the first layout and else by the second. -/
theorem readField_month (h : 1 ≤ n ∧ n ≤ 12) (hstop : stop c = true) :
    readField monthLayouts stop (twoDigits n ++ c :: rest) = some (n, c :: rest) := by
  rcases Nat.lt_or_ge n 10 with hn | hn
  · rw [monthLayouts, readField_of_other_tens (between_digitChar_eq_none (by omega))]
    exact readField_two hstop (between_digitChar (by omega)) (between_digitChar (by omega))
  · exact readField_two hstop (between_digitChar (by omega)) (between_digitChar (by omega))

/-- **A day is read**, by a layout for each number of tens. -/
theorem readField_day (h : 1 ≤ n ∧ n ≤ 31) (hstop : stop c = true) :
    readField dayLayouts stop (twoDigits n ++ c :: rest) = some (n, c :: rest) := by
  rcases Nat.lt_or_ge n 30 with hn | hn
  · rw [dayLayouts, readField_of_other_tens (between_digitChar_eq_none (by omega))]
    rcases Nat.lt_or_ge n 10 with hn | hn
    · rw [readField_of_other_tens (between_digitChar_eq_none (by omega))]
      exact readField_two hstop (between_digitChar (by omega)) (between_digitChar (by omega))
    · exact readField_two hstop (between_digitChar (by omega)) (digit?_digitChar (by omega))
  · exact readField_two hstop (between_digitChar (by omega)) (between_digitChar (by omega))

/-- **An hour is read**, from the twentieth on by the first layout and else by the second. -/
theorem readField_hour (h : n < 24) (hstop : stop c = true) :
    readField hourLayouts stop (twoDigits n ++ c :: rest) = some (n, c :: rest) := by
  rcases Nat.lt_or_ge n 20 with hn | hn
  · rw [hourLayouts, readField_of_other_tens (between_digitChar_eq_none (by omega))]
    exact readField_two hstop (between_digitChar (by omega)) (digit?_digitChar (by omega))
  · exact readField_two hstop (between_digitChar (by omega)) (between_digitChar (by omega))

/-- **A minute is read.** -/
theorem readField_minute (h : n < 60) (hstop : stop c = true) :
    readField minuteLayouts stop (twoDigits n ++ c :: rest) = some (n, c :: rest) :=
  readField_two hstop (between_digitChar (by omega)) (digit?_digitChar (by omega))

/-- **A second is read**, by the layout after that of leap seconds. -/
theorem readField_second (h : n < 60) (hstop : stop c = true) :
    readField secondLayouts stop (twoDigits n ++ c :: rest) = some (n, c :: rest) := by
  rw [secondLayouts, readField_of_other_tens (between_digitChar_eq_none (by omega))]
  exact readField_two hstop (between_digitChar (by omega)) (digit?_digitChar (by omega))

/-- What digits leave of a text is its end. -/
theorem readDigits_suffix : ∀ {layout : List DigitClass} {value n : Nat} {cs rest : List Char},
    readDigits value layout cs = some (n, rest) → rest <:+ cs
  | [], _, _, cs, _, h => by
    cases h
    exact List.suffix_refl cs
  | _ :: _, _, _, [], _, h => nomatch h
  | digit :: layout, value, n, c :: cs, rest, h => by
    rw [readDigits] at h
    split at h
    · exact (readDigits_suffix h).trans (List.suffix_cons c cs)
    · cases h

/-- A field is not read where nothing ends it. -/
theorem readField_eq_none (h : ∀ c ∈ cs, stop c = false) : readField layouts stop cs = none := by
  rw [readField, List.findSome?_eq_none_iff]
  intro layout _
  split
  · next n c rest hread =>
    have hc : c ∈ cs := (readDigits_suffix hread).subset List.mem_cons_self
    simp [h c hc]
  · rfl

end

/-! ## Fractions -/

/-- A text that does not go on with a digit or with a point. -/
def EndsFraction (cs : List Char) : Prop := ∀ c ∈ cs.head?, digit? c = none ∧ c ≠ '.'

theorem endsFraction_nil : EndsFraction [] := fun _ hc => nomatch hc

theorem digitChar_ne_point : ∀ d : Fin 10, digitChar d ≠ '.' := by decide

theorem shortenFrom_of_not_digit {c : Char} (h : digit? c = none ∧ c ≠ '.') (taken : Option Nat)
    (cs : List Char) : shortenFrom taken (c :: cs) = c :: shortenFrom none cs := by
  cases taken <;> simp [shortenFrom, h]

theorem shortenFrom_digit (n : Nat) (d : Fin 10) (cs : List Char) :
    shortenFrom (some n) (digitChar d :: cs) =
      if n < 6 then digitChar d :: shortenFrom (some (n + 1)) cs else shortenFrom (some n) cs := by
  simp only [shortenFrom, digitChar_ne_point d, digit?_digitChar d.isLt, if_false]

theorem shortenFrom_point (cs : List Char) :
    shortenFrom none ('.' :: cs) = '.' :: shortenFrom (some 0) cs := by
  simp [shortenFrom]

/-- A text without a point is left as it is. -/
theorem shortenFrom_append {cs : List Char} (h : '.' ∉ cs) (rest : List Char) :
    shortenFrom none (cs ++ rest) = cs ++ shortenFrom none rest := by
  induction cs with
  | nil => rfl
  | cons c cs ih =>
    rw [List.mem_cons, not_or] at h
    simp [shortenFrom, Ne.symm h.1, ih h.2]

theorem shorten_eq_self {cs : List Char} (h : '.' ∉ cs) : shorten cs = cs := by
  have happend := shortenFrom_append h []
  rwa [List.append_nil, shortenFrom, List.append_nil] at happend

theorem EndsFraction.shortenFrom_eq {rest : List Char} (h : EndsFraction rest)
    (taken : Option Nat) : shortenFrom taken rest = shortenFrom none rest := by
  cases rest with
  | nil => rfl
  | cons c cs =>
    rw [shortenFrom_of_not_digit (h c rfl), shortenFrom_of_not_digit (h c rfl)]

/-- Of the digits of a fraction six are left. -/
theorem EndsFraction.shortenFrom_digitChars {rest : List Char} (h : EndsFraction rest)
    (digits : List (Fin 10)) (n : Nat) : shortenFrom (some n) (digitChars digits ++ rest) =
      digitChars (digits.take (6 - n)) ++ shortenFrom none rest := by
  induction digits generalizing n with
  | nil =>
    rw [List.take_nil]
    exact h.shortenFrom_eq (some n)
  | cons d digits ih =>
    rw [digitChars_cons, List.cons_append, shortenFrom_digit]
    split
    · next hn =>
      obtain ⟨k, hk⟩ : ∃ k, 6 - n = k + 1 := ⟨6 - n - 1, by omega⟩
      rw [ih, hk, List.take_succ_cons, digitChars_cons, List.cons_append,
        show 6 - (n + 1) = k by omega]
    · next hn => rw [ih, Nat.sub_eq_zero_of_le (by omega), List.take_zero, List.take_zero]

/-- The digits of a short fraction are read one after the other. -/
theorem EndsFraction.leadingDigits_digitChars {rest : List Char} (h : EndsFraction rest)
    {digits : List (Fin 10)} (value count most : Nat) (hmost : digits.length ≤ most) :
    leadingDigits asciiDigit? value count most (digitChars digits ++ rest) =
      (valueAfter value digits, count + digits.length, rest) := by
  induction digits generalizing value count most with
  | nil =>
    rw [digitChars_nil, List.nil_append]
    rcases most with _ | most
    · rfl
    rcases rest with _ | ⟨c, cs⟩
    · rfl
    have hnot : asciiDigit? c = none := Option.eq_none_iff_forall_ne_some.2 fun d hd => by
      have hdigit := digit?_of_asciiDigit? hd
      rw [(h c rfl).1] at hdigit
      cases hdigit
    rw [leadingDigits, hnot]
    rfl
  | cons d digits ih =>
    rcases most with _ | most
    · exact absurd hmost (Nat.not_succ_le_zero _)
    rw [digitChars_cons, List.cons_append, leadingDigits, asciiDigit?_digitChar d.isLt]
    dsimp only
    rw [ih _ _ _ (Nat.le_of_succ_le_succ hmost), valueAfter_cons, List.length_cons,
      Nat.add_right_comm, Nat.add_assoc]

/-- **A short fraction is read.** -/
theorem EndsFraction.readFraction_digitChars {rest : List Char} (h : EndsFraction rest)
    {digits : List (Fin 10)} (hne : digits ≠ []) (hshort : digits.length ≤ 6) :
    readFraction asciiDigit? (digitChars digits ++ rest) = some (microsOfDigits digits, rest) := by
  obtain ⟨k, hk⟩ := Nat.exists_eq_succ_of_ne_zero (mt List.length_eq_zero_iff.1 hne)
  rw [readFraction, h.leadingDigits_digitChars 0 0 6 hshort, microsOfDigits_eq hshort, Nat.zero_add,
    hk]
  rfl

/-! ## Zones -/

theorem endsFraction_text (z : Zone) : EndsFraction z.text := by
  rcases z with _ | ⟨_ | _, colon, hours, minutes⟩ <;> intro c hc <;> cases hc <;> decide

theorem colon_digitChar (d : Fin 10) (cs : List Char) :
    colon (digitChar d :: cs) = (false, digitChar d :: cs) := by
  have hne : ∀ d : Fin 10, digitChar d ≠ ':' := by decide
  rw [colon]
  exact fun _ hcons => hne d (List.cons.inj hcons).1

/-- An offset is read, with a colon or without. -/
theorem readOffset_text (mark : Bool) (hours : Fin 24) (minutes : Fin 60) :
    readOffset (twoDigits hours ++ ((if mark then [':'] else []) ++ twoDigits minutes)) =
      some (Zone.length hours minutes) := by
  have hhours := hours.isLt
  have hminutes := minutes.isLt
  have hcolon : colon ((if mark then [':'] else []) ++ twoDigits minutes) =
      (mark, twoDigits minutes ++ []) := by
    rw [List.append_nil]
    cases mark
    · exact colon_digitChar ⟨minutes / 10, by omega⟩ _
    · rfl
  rw [readOffset, readDigits_two (digit?_digitChar (by omega)) (digit?_digitChar (by omega))]
  simp only [Option.bind_eq_bind, Option.bind_some, hcolon]
  rw [readDigits_two (between_digitChar (by omega)) (digit?_digitChar (by omega)),
    Option.bind_some, Zone.length, Option.pure_def]

theorem length_lt (hours : Fin 24) (minutes : Fin 60) :
    Zone.length hours minutes < microsPerDay := by
  have hhours := hours.isLt
  have hminutes := minutes.isLt
  simp only [Zone.length, microsPerDay, microsPerSecond]
  omega

theorem readZone_signed {sign : Char} (hsign : sign = '+' ∨ sign = '-') {cs : List Char}
    {offset : Nat} (h : readOffset cs = some offset) (hlt : offset < microsPerDay) :
    readZone (sign :: cs) = some (if sign = '-' then -(offset : Int) else offset) := by
  have hguard : (guard (offset < microsPerDay) : Option Unit) = some () :=
    (Option.guard_eq_some' _).2 hlt
  have hz : sign ≠ 'Z' := by
    rcases hsign with rfl | rfl <;> decide
  rw [readZone, if_pos hsign, h, Option.bind_eq_bind, Option.bind_some, hguard,
    Option.bind_eq_bind, Option.bind_some, Option.pure_def]
  exact fun hsame _ => hz hsame

/-- **A zone is read.** -/
theorem readZone_text (z : Zone) : readZone z.text = some z.micros := by
  rcases z with _ | ⟨behind, mark, hours, minutes⟩
  · rfl
  · have hoffset := readOffset_text mark hours minutes
    have hlt := length_lt hours minutes
    rcases behind with _ | _
    · have hplus : '+' ≠ '-' := by decide
      rw [Zone.text, if_neg Bool.false_ne_true, readZone_signed (.inl rfl) hoffset hlt,
        if_neg hplus, Zone.micros]
    · rw [Zone.text, if_pos rfl, readZone_signed (.inr rfl) hoffset hlt, if_pos rfl, Zone.micros]

/-! ## Clocks -/

/-- What is read of a timestamp from its seconds on. -/
def readFromSeconds? (date : Date) (hour minute : Nat) (cs : List Char) : Option Reading := do
  let (second, cs) ← readField secondLayouts endsSeconds cs
  let (fraction, cs) ←
    match cs with
    | '.' :: cs => readFraction asciiDigit? cs
    | cs => some (0, cs)
  let offset ← readZone cs
  guard (date.Exists ∧ second < 60)
  return ⟨date, ((hour * 60 + minute) * 60 + second) * microsPerSecond + fraction, offset⟩

/-- What is in front of the seconds of a clock is read field by field. -/
theorem read?_secondsText (c : Clock) (rest : List Char) : read? (c.secondsText ++ rest) =
    readFromSeconds? c.date c.hour c.minute (twoDigits c.second ++ rest) := by
  have hyear : ∀ cs, readMarked yearLayouts (· == '-') (fourDigits c.date.year ++ '-' :: cs) =
      some (c.date.year, cs) := fun cs =>
    readMarked_of_readField (readField_year (Nat.lt_succ_of_le c.exists_date.2.1) rfl)
  have hmonth : ∀ cs, readMarked monthLayouts (· == '-') (twoDigits c.date.month ++ '-' :: cs) =
      some (c.date.month, cs) := fun cs =>
    readMarked_of_readField (readField_month c.exists_date.month rfl)
  have hday : ∀ cs, readMarked dayLayouts (fun c => c == 'T' || c == 't')
      (twoDigits c.date.day ++ 'T' :: cs) = some (c.date.day, cs) := fun cs =>
    readMarked_of_readField (readField_day c.exists_date.day rfl)
  have hhour : ∀ cs, readMarked hourLayouts (· == ':') (twoDigits c.hour ++ ':' :: cs) =
      some (c.hour.val, cs) := fun cs =>
    readMarked_of_readField (readField_hour c.hour.isLt rfl)
  have hminute : ∀ cs, readMarked minuteLayouts (· == ':') (twoDigits c.minute ++ ':' :: cs) =
      some (c.minute.val, cs) := fun cs =>
    readMarked_of_readField (readField_minute c.minute.isLt rfl)
  simp only [Clock.secondsText, List.append_assoc, List.cons_append, read?, Option.bind_eq_bind,
    Option.bind_some, hyear, hmonth, hday, hhour, hminute]
  rfl

/-- Whole seconds are followed by a zone, -/
theorem readFromSeconds?_zone {date : Date} {hour minute second : Nat} (hsecond : second < 60)
    (hdate : date.Exists) (z : Zone) :
    readFromSeconds? date hour minute (twoDigits second ++ z.text) =
      some ⟨date, ((hour * 60 + minute) * 60 + second) * microsPerSecond, z.micros⟩ := by
  obtain ⟨x, xs, htext, hstop, hx⟩ : ∃ x xs, z.text = x :: xs ∧ endsSeconds x = true ∧ x ≠ '.' := by
    rcases z with _ | ⟨_ | _, mark, hours, minutes⟩
    · exact ⟨_, _, rfl, rfl, by decide⟩
    · exact ⟨_, _, rfl, rfl, by decide⟩
    · exact ⟨_, _, rfl, rfl, by decide⟩
  have hzone := readZone_text z
  rw [htext] at hzone ⊢
  rw [readFromSeconds?, readField_second hsecond hstop]
  simp [hx, hzone, hdate, hsecond]

/-- and others by a point, a fraction and what is behind it. -/
theorem readFromSeconds?_fraction {date : Date} (hour minute : Nat) {second : Nat}
    (hsecond : second < 60) (hdate : date.Exists) {digits : List (Fin 10)} (hne : digits ≠ [])
    (hshort : digits.length ≤ 6) {rest : List Char} (hrest : EndsFraction rest) :
    readFromSeconds? date hour minute (twoDigits second ++ '.' :: (digitChars digits ++ rest)) =
      (readZone rest).map fun offset =>
        ⟨date, ((hour * 60 + minute) * 60 + second) * microsPerSecond + microsOfDigits digits,
          offset⟩ := by
  rw [readFromSeconds?, readField_second hsecond rfl]
  simp only [Option.bind_eq_bind, Option.bind_some, hrest.readFraction_digitChars hne hshort]
  cases readZone rest with
  | none => rfl
  | some offset => simp [hdate, hsecond]

/-- **What is read of a clock and a zone is what they show.** -/
theorem read?_text {c : Clock} (hshort : c.fraction.length ≤ 6) (z : Zone) :
    read? (c.text ++ z.text) = some ⟨c.date, c.timeOfDay, z.micros⟩ := by
  rw [Clock.text, List.append_assoc, read?_secondsText, Clock.timeOfDay, Clock.secondOfDay]
  rcases hfraction : c.fraction with _ | ⟨d, digits⟩
  · rw [microsOfDigits_nil, Nat.add_zero]
    exact readFromSeconds?_zone c.second.isLt c.exists_date z
  · rw [hfraction] at hshort
    have hread := readFromSeconds?_fraction c.hour c.minute c.second.isLt c.exists_date
      (List.cons_ne_nil d digits) hshort (endsFraction_text z)
    rwa [readZone_text] at hread

/-- **Nothing is read of a clock without a zone.** -/
theorem read?_text_eq_none {c : Clock} (hshort : c.fraction.length ≤ 6) : read? c.text = none := by
  rw [Clock.text, read?_secondsText]
  rcases hfraction : c.fraction with _ | ⟨d, digits⟩
  · have hstop : ∀ d : Fin 10, endsSeconds (digitChar d) = false := by decide
    have hnone : readField secondLayouts endsSeconds (twoDigits c.second) = none := by
      refine readField_eq_none fun x hx => ?_
      obtain ⟨d, rfl⟩ := exists_of_mem_twoDigits (Nat.lt_trans c.second.isLt (by decide)) hx
      exact hstop d
    rw [Clock.fractionText, List.append_nil, readFromSeconds?, hnone]
    rfl
  · rw [hfraction] at hshort
    have hread := readFromSeconds?_fraction c.hour c.minute c.second.isLt c.exists_date
      (List.cons_ne_nil d digits) hshort endsFraction_nil
    rwa [List.append_nil] at hread

/-! ## Whole timestamps -/

/-- A character of a written timestamp: a digit or a mark, but for the point of a fraction. -/
def IsStampChar (x : Char) : Prop :=
  (∃ d : Fin 10, x = digitChar d) ∨ x ∈ ['-', '+', ':', 'T', 'Z']

theorem isStampChar_of_mem_twoDigits {n : Nat} (h : n < 100) : ∀ x ∈ twoDigits n, IsStampChar x :=
  fun _ hx => .inl (exists_of_mem_twoDigits h hx)

theorem isStampChar_of_mem_secondsText (c : Clock) : ∀ x ∈ c.secondsText, IsStampChar x := by
  have hyear := c.exists_date.2.1
  have hmonth := c.exists_date.month
  have hday := c.exists_date.day
  have hhour := c.hour.isLt
  have hminute := c.minute.isLt
  have hsecond := c.second.isLt
  have hdash : IsStampChar '-' := .inr (by decide)
  have hcolon : IsStampChar ':' := .inr (by decide)
  have ht : IsStampChar 'T' := .inr (by decide)
  simp only [Clock.secondsText, fourDigits, List.forall_mem_append, List.forall_mem_cons, hdash,
    hcolon, ht, true_and]
  refine ⟨⟨⟨⟨⟨⟨?_, ?_⟩, ?_⟩, ?_⟩, ?_⟩, ?_⟩, ?_⟩ <;> exact isStampChar_of_mem_twoDigits (by omega)

theorem isStampChar_of_mem_zone (z : Zone) : ∀ x ∈ z.text, IsStampChar x := by
  rcases z with _ | ⟨behind, mark, hours, minutes⟩
  · rintro x hx
    exact .inr (by simp_all [Zone.text])
  · have hhours := hours.isLt
    have hminutes := minutes.isLt
    simp only [Zone.text, List.forall_mem_append, List.forall_mem_cons]
    refine ⟨?_, isStampChar_of_mem_twoDigits (by omega), ?_,
      isStampChar_of_mem_twoDigits (by omega)⟩
    · rcases behind with _ | _ <;> exact .inr (by decide)
    · rcases mark with _ | _
      · exact fun _ hx => nomatch hx
      · exact fun x hx => .inr (by simp_all)

theorem IsStampChar.ne_point {x : Char} (h : IsStampChar x) : x ≠ '.' := by
  rcases h with ⟨d, rfl⟩ | h
  · exact digitChar_ne_point d
  · rintro rfl
    exact absurd h (by decide)

theorem isPadding_digitChar : ∀ d : Fin 10, isPadding (digitChar d) = false := by decide

theorem IsStampChar.not_padding {x : Char} (h : IsStampChar x) : isPadding x = false := by
  rcases h with ⟨d, rfl⟩ | h
  · exact isPadding_digitChar d
  · simp only [List.mem_cons, List.not_mem_nil, or_false] at h
    rcases h with rfl | rfl | rfl | rfl | rfl <;> decide

theorem not_padding_of_mem_text (c : Clock) : ∀ x ∈ c.text, isPadding x = false := by
  rw [Clock.text, List.forall_mem_append]
  refine ⟨fun x hx => (isStampChar_of_mem_secondsText c x hx).not_padding, ?_⟩
  rcases c.fraction with _ | ⟨d, digits⟩
  · exact fun _ hx => nomatch hx
  · have hdigits : ∀ x ∈ digitChars (d :: digits), isPadding x = false := by
      intro x hx
      obtain ⟨d', -, rfl⟩ := List.mem_map.1 hx
      exact isPadding_digitChar d'
    exact List.forall_mem_cons.2 ⟨by decide, hdigits⟩

theorem not_padding_of_mem_stamp (c : Clock) (z : Zone) :
    ∀ x ∈ c.text ++ z.text, isPadding x = false :=
  List.forall_mem_append.2 ⟨not_padding_of_mem_text c, fun x hx =>
    (isStampChar_of_mem_zone z x hx).not_padding⟩

/-- **Of a long fraction six digits are left.** -/
theorem shorten_text (c : Clock) {rest : List Char} (hends : EndsFraction rest)
    (hrest : '.' ∉ rest) : shorten (c.text ++ rest) =
      ({ c with fraction := c.fraction.take 6 } : Clock).text ++ rest := by
  have hseconds : '.' ∉ c.secondsText := fun hmem =>
    (isStampChar_of_mem_secondsText c _ hmem).ne_point rfl
  have hself : shortenFrom none rest = rest := shorten_eq_self hrest
  rw [shorten, Clock.text, List.append_assoc, shortenFrom_append hseconds, Clock.text,
    List.append_assoc]
  refine congrArg (c.secondsText ++ ·) ?_
  rcases c.fraction with _ | ⟨d, digits⟩
  · exact hself
  · have hpoint : Clock.fractionText (d :: digits) ++ rest =
        '.' :: (digitChars (d :: digits) ++ rest) := rfl
    rw [hpoint, shortenFrom_point, hends.shortenFrom_digitChars, hself]
    rfl

theorem timeOfDay_take (c : Clock) :
    ({ c with fraction := c.fraction.take 6 } : Clock).timeOfDay = c.timeOfDay :=
  congrArg (c.secondOfDay * microsPerSecond + ·) (microsOfDigits_take c.fraction)

/-- A clock and a zone are read, with a fraction of any length. -/
theorem read?_shorten_text (c : Clock) (z : Zone) :
    read? (shorten (c.text ++ z.text)) = some ⟨c.date, c.timeOfDay, z.micros⟩ := by
  have hpoint : '.' ∉ z.text := fun hmem => (isStampChar_of_mem_zone z _ hmem).ne_point rfl
  rw [shorten_text c (endsFraction_text z) hpoint, read?_text (List.length_take_le _ _),
    timeOfDay_take]

theorem read?_shorten_text_eq_none (c : Clock) : read? (shorten c.text) = none := by
  have hshorten := shorten_text c endsFraction_nil List.not_mem_nil
  rw [List.append_nil, List.append_nil] at hshorten
  rw [hshorten, read?_text_eq_none (List.length_take_le _ _)]

/-! ## Documents -/

/-- An offset is a number of whole minutes. -/
theorem exists_micros_eq (z : Zone) : ∃ minutes : Int, z.micros = minutes * 60 * microsPerSecond := by
  rcases z with _ | ⟨_ | _, mark, hours, minutes⟩
  · exact ⟨0, rfl⟩
  · refine ⟨(hours * 60 + minutes : Nat), ?_⟩
    rw [Zone.micros, Zone.length, Int.natCast_mul, Int.natCast_mul]
    rfl
  · refine ⟨-(hours * 60 + minutes : Nat), ?_⟩
    rw [Zone.micros, Zone.length, Int.natCast_mul, Int.natCast_mul, Int.neg_mul, Int.neg_mul]
    rfl

/-- So what clocks of two zones show at an instant has the same microseconds. -/
theorem microsOfDigits_eq_of_micros {c u : Clock} {z : Zone}
    (h : (u.micros : Int) = c.micros - z.micros) :
    microsOfDigits u.fraction = microsOfDigits c.fraction := by
  obtain ⟨minutes, hminutes⟩ := exists_micros_eq z
  have hc := microsOfDigits_lt c.fraction
  have hu := microsOfDigits_lt u.fraction
  simp only [Clock.micros, Clock.timeOfDay, microsPerDay, microsPerSecond] at *
  omega

/-- A clock and a zone come to the instant of the clock less the offset of the zone. -/
theorem ofLabel_text {c u : Clock} {z : Zone} (h : (u.micros : Int) = c.micros - z.micros) :
    ofLabel (String.ofList (c.text ++ z.text)) = .ok (some u.instant) := by
  have hmicros : ((c.date.dayNumber * microsPerDay : Nat) : Int) + (c.timeOfDay - z.micros) =
      u.instant.micros := by
    change _ = (u.micros : Int)
    rw [h, Clock.micros, Int.natCast_add, Int.add_sub_assoc]
  have hinstant : (Reading.mk c.date c.timeOfDay z.micros).instant? = some u.instant := by
    rw [Reading.instant?, Instant.ofDay?, Instant.ofMicros?_eq_some_iff, hmicros]
  rw [ofLabel, String.toList_ofList, read?_shorten_text]
  dsimp only
  rw [hinstant]

/-- **A written timestamp is read as its instant.**  Whatever padding is around the text of a clock
and a zone, what is read is the instant at which a clock in UTC shows the time of the one less the
offset of the other, if there is such a time in the calendar: on its date, at its second of the day,
and at the microsecond of the fraction that is written.  The text of a clock alone is no
timestamp. -/
theorem ofJson_written (c : Clock) (z : Zone) {before after : List Char}
    (hbefore : ∀ x ∈ before, isPadding x = true) (hafter : ∀ x ∈ after, isPadding x = true) :
    (∀ u : Clock, (u.micros : Int) = c.micros - z.micros →
      ∃ t : Instant, ofJson (.str (String.ofList (before ++ (c.text ++ z.text) ++ after))) =
          .ok (some t) ∧
        t.date = u.date ∧ t.secondOfDay = u.secondOfDay ∧
        t.subsecond = microsOfDigits c.fraction) ∧
      ofJson (.str (String.ofList (before ++ c.text ++ after))) = .ok none := by
  refine ⟨fun u hu => ?_, ?_⟩
  · refine ⟨u.instant, ?_, u.date_instant, u.secondOfDay_instant, ?_⟩
    · rw [ofJson, label_padded hbefore (not_padding_of_mem_stamp c z) hafter, ofLabel_text hu]
    · rw [u.subsecond_instant, microsOfDigits_eq_of_micros hu]
  · rw [ofJson, label_padded hbefore (not_padding_of_mem_text c) hafter, ofLabel,
      String.toList_ofList, read?_shorten_text_eq_none]

/-- The last evening of a leap year by a clock that is behind UTC, with nine digits of a fraction. -/
def evening : Clock where
  date := ⟨1996, 12, 31⟩
  hour := ⟨23, by decide⟩
  minute := ⟨30, by decide⟩
  second := ⟨7, by decide⟩
  fraction := List.replicate 9 (Fin.last 9)
  exists_date := by decide

/-- The night after it in UTC. -/
def night : Clock where
  date := ⟨1997, 1, 1⟩
  hour := ⟨1, by decide⟩
  minute := ⟨15, by decide⟩
  second := ⟨7, by decide⟩
  fraction := List.replicate 6 (Fin.last 9)
  exists_date := by decide

/-- An evening is read as the night that it is in UTC, in the next year. -/
theorem ofJson_written_evening : (∀ x ∈ [' ', '\t'], isPadding x = true) ∧
    (∀ x ∈ ['\n'], isPadding x = true) ∧
    (night.micros : Int) = evening.micros - (Zone.offset true true 1 45).micros ∧
    String.ofList ([' ', '\t'] ++ (evening.text ++ (Zone.offset true true 1 45).text) ++ ['\n']) =
      " \t1996-12-31T23:30:07.999999999-01:45\n" ∧
    ∃ t : Instant, ofJson (.str " \t1996-12-31T23:30:07.999999999-01:45\n") = .ok (some t) ∧
      t.date = ⟨1997, 1, 1⟩ ∧ t.secondOfDay = 4507 ∧ t.subsecond = 999999 := by
  have hbefore : ∀ x ∈ [' ', '\t'], isPadding x = true :=
    List.forall_mem_cons.2 ⟨by decide, List.forall_mem_singleton.2 (by decide)⟩
  have hafter : ∀ x ∈ ['\n'], isPadding x = true := List.forall_mem_singleton.2 (by decide)
  have hnight : (night.micros : Int) = evening.micros - (Zone.offset true true 1 45).micros := by
    decide +kernel
  have htext : String.ofList ([' ', '\t'] ++ (evening.text ++ (Zone.offset true true 1 45).text) ++
      ['\n']) = " \t1996-12-31T23:30:07.999999999-01:45\n" := by decide +kernel
  obtain ⟨hread, -⟩ := ofJson_written evening (.offset true true 1 45) hbefore hafter
  rw [htext] at hread
  exact ⟨hbefore, hafter, hnight, htext, hread night hnight⟩

end Timestamp

end ArchiveCensus
