import ArchiveCensus.Proofs.Time.Written

/-!
# Proofs/Time/Rendered — which rendered instants are read back

An instant is rendered as a clock in UTC shows it, to the second, but for the year, which has no
zeros in front of it.  From the year 1000 on the year has its four digits and the text is a written
timestamp.  Before it a mark stands where the layout of years has a digit, and nothing is read.

* `Timestamp.ofJson_fullText` — every instant is read from some text.
* `Timestamp.isStampOf_text_iff` — the rendered instants that are timestamps are those from the year
  1000 on.
* `Timestamp.ofJson_text` — and they are those that are read back.
* `Instant.year_of_ofSeconds?` — an instant that some seconds come to is one of them.
-/

namespace ArchiveCensus

open Text

/-! ## Numbers -/

namespace Instant

/-- A wide number ends with its last digit. -/
theorem padded_succ {width : Nat} (hwidth : 1 ≤ width) (n : Nat) :
    padded (width + 1) n = padded width (n / 10) ++ [digitChar (n % 10)] := by
  rcases Nat.lt_or_ge n 10 with hn | hn
  · -- the number without its last digit is zero, and has a digit all the same
    have hzero : digitChar 0 = '0' := by decide
    have hpad : List.replicate width '0' = List.replicate (width - 1) '0' ++ ['0'] := by
      rw [← List.replicate_succ', Nat.sub_add_cancel hwidth]
    rw [padded, padded, Nat.div_eq_of_lt hn, Nat.mod_eq_of_lt hn, digitsOf_of_lt hn,
      digitsOf_of_lt (by decide), hzero]
    exact congrArg (· ++ [digitChar n]) hpad
  · rw [padded, padded, digitsOf_of_le hn, List.length_append, List.length_singleton,
      Nat.add_sub_add_right, List.append_assoc]

theorem padded_one {n : Nat} (h : n < 10) : padded 1 n = [digitChar n] := by
  rw [padded, digitsOf_of_lt h]
  rfl

theorem padded_two {n : Nat} (h : n < 100) : padded 2 n = twoDigits n := by
  rw [padded_succ (Nat.le_refl 1), padded_one (by omega)]
  rfl

theorem padded_four {n : Nat} (h : n < 10000) : padded 4 n = fourDigits n := by
  have hhundreds : n / 10 / 10 = n / 100 := Nat.div_div_eq_div_mul n 10 10
  have htens : n % 100 / 10 = n / 10 % 10 := by omega
  have hunits : n % 100 % 10 = n % 10 := by omega
  rw [padded_succ (by decide), padded_succ (by decide), hhundreds, padded_two (by omega), fourDigits,
    List.append_assoc, List.singleton_append, ← htens, ← hunits]
  rfl

/-- A number that is wide enough is not padded. -/
theorem padded_of_le {width n : Nat} (h : width ≤ (Binary64.digitsOf n).length) :
    padded width n = Binary64.digitsOf n := by
  rw [padded, Nat.sub_eq_zero_of_le h, List.replicate_zero, List.nil_append]

/-- A number of four digits is not padded. -/
theorem padded_zero {n : Nat} (hlow : 1000 ≤ n) (h : n < 10000) : padded 0 n = fourDigits n := by
  have hlength : 3 < (Binary64.digitsOf n).length := by
    rw [← Nat.not_le, length_digitsOf_le_iff (by decide)]
    omega
  rw [padded_of_le (Nat.zero_le _), ← padded_four h, padded_of_le hlength]

/-- A number is padded to its last digits. -/
theorem padded_eq_lastDigits {width n : Nat} (h : n < 10 ^ (width + 1)) :
    padded (width + 1) n = digitChars (lastDigits (width + 1) n) := by
  induction width generalizing n with
  | zero =>
    have hunits : n % 10 = n := Nat.mod_eq_of_lt h
    rw [padded_one h]
    exact congrArg (fun k => [digitChar k]) hunits.symm
  | succ width ih =>
    have hrest : n / 10 < 10 ^ (width + 1) :=
      Nat.div_lt_of_lt_mul (by rwa [Nat.pow_succ'] at h)
    rw [padded_succ (Nat.succ_pos width), ih hrest, lastDigits_succ (width + 1) n, digitChars,
      digitChars, List.map_append]
    rfl

/-! ## Texts -/

variable (t : Instant)

/-- What is rendered is what a clock shows, but for the year. -/
theorem clockText_eq (yearWidth : Nat) :
    clockText yearWidth t = padded yearWidth t.date.year ++ t.clock.secondsText.drop 4 := by
  have hmonth := t.exists_date.month
  have hday := t.exists_date.day
  have hsecond := t.secondOfDay_lt
  rw [clockText, padded_two (by omega), padded_two (by omega), padded_two (by omega),
    padded_two (by omega), padded_two (by omega), List.append_assoc, List.append_assoc,
    List.append_assoc, List.append_assoc]
  rfl

/-- The year is in front. -/
theorem secondsText_clock :
    t.clock.secondsText = fourDigits t.date.year ++ t.clock.secondsText.drop 4 := rfl

/-- **From the year 1000 on an instant is rendered as it is written.** -/
theorem text_eq (h : 1000 ≤ t.date.year) :
    t.text = String.ofList (t.clock.text ++ Zone.utc.text) := by
  rw [text, clockText_eq, padded_zero h (Nat.lt_succ_of_le t.exists_date.2.1), ← secondsText_clock,
    Clock.text]
  exact congrArg (fun cs => String.ofList (cs ++ ['Z'])) (List.append_nil _).symm

/-- What a clock in UTC shows at an instant, to the microsecond. -/
def fullClock : Clock := { t.clock with fraction := lastDigits 6 t.subsecond }

theorem instant_fullClock : t.fullClock.instant = t := by
  have hsecond : t.clock.micros = t.micros - t.subsecond := congrArg micros t.instant_clock
  have hdate : t.fullClock.date = t.clock.date := rfl
  have htime : t.fullClock.secondOfDay = t.clock.secondOfDay := rfl
  have hwhole : microsOfDigits t.clock.fraction = 0 := microsOfDigits_nil
  have hsubsecond : microsOfDigits t.fullClock.fraction = t.subsecond := by
    have hlt : t.subsecond < 10 ^ 6 := Nat.mod_lt _ Timestamp.microsPerSecond_pos
    have hlength : t.fullClock.fraction.length = 6 := length_lastDigits 6 _
    rw [microsOfDigits_eq (Nat.le_of_eq hlength), hlength, fullClock, valueAfter_lastDigits hlt,
      Nat.sub_self, Nat.pow_eq, Nat.pow_zero, Nat.mul_one]
  have hle : t.subsecond ≤ t.micros := Nat.mod_le _ _
  have hmicros : t.fullClock.micros = t.micros := by
    rw [Clock.micros, Clock.timeOfDay, hwhole, Nat.add_zero] at hsecond
    rw [Clock.micros, Clock.timeOfDay, hdate, htime, hsubsecond, ← Nat.add_assoc, hsecond,
      Nat.sub_add_cancel hle]
  simp only [Clock.instant, hmicros]

theorem fullText_eq : t.fullText =
    String.ofList (t.fullClock.text ++ (Zone.offset false true 0 0).text) := by
  have hlt : t.subsecond < 10 ^ 6 := Nat.mod_lt _ Timestamp.microsPerSecond_pos
  have hzone : (Zone.offset false true 0 0).text = "+00:00".toList := by decide
  rw [fullText, clockText_eq, padded_four (Nat.lt_succ_of_le t.exists_date.2.1),
    ← secondsText_clock, padded_eq_lastDigits hlt, hzone, Clock.text, List.append_assoc]
  rfl

end Instant

namespace Timestamp

variable (t : Instant)

/-! ## Years that are too short -/

/-- Characters in front of a mark fit no layout that is longer. -/
theorem readDigits_eq_none {mark : Char} {layout : List DigitClass}
    (hmark : ∀ digit ∈ layout, digit mark = none) {cs : List Char}
    (hshort : cs.length < layout.length) (value : Nat) (rest : List Char) :
    readDigits value layout (cs ++ mark :: rest) = none := by
  induction cs generalizing layout value with
  | nil =>
    rcases layout with _ | ⟨digit, layout⟩
    · exact absurd hshort (Nat.not_lt_zero _)
    · rw [List.nil_append, readDigits, hmark digit List.mem_cons_self]
  | cons c cs ih =>
    rcases layout with _ | ⟨digit, layout⟩
    · exact absurd hshort (Nat.not_lt_zero _)
    · rw [List.cons_append, readDigits]
      split
      · exact ih (fun d hd => hmark d (List.mem_cons_of_mem _ hd)) (Nat.lt_of_succ_lt_succ hshort) _
      · rfl

/-- **A year of fewer than four digits is not read.** -/
theorem read?_eq_none {ds : List Char} (h : ds.length < 4) (rest : List Char) :
    read? (ds ++ '-' :: rest) = none := by
  have hmark : ∀ digit ∈ [digit?, digit?, digit?, digit?], digit '-' = none := by decide
  have hyear : readMarked yearLayouts (· == '-') (ds ++ '-' :: rest) = none := by
    rw [readMarked, readField, yearLayouts, List.findSome?_cons, readDigits_eq_none hmark h]
    rfl
  rw [read?, hyear]
  rfl

/-! ## Rendered instants -/

/-- A clock in UTC is read as its instant. -/
theorem ofJson_clock {c : Clock} {z : Zone} (hz : z.micros = 0) :
    ofJson (.str (String.ofList (c.text ++ z.text))) = .ok (some c.instant) := by
  have hsame : (c.micros : Int) = c.micros - z.micros := by rw [hz, Int.sub_zero]
  rw [ofJson, label_of_not_padding (not_padding_of_mem_stamp c z), ofLabel_text hsame]

/-- **Every instant is read from some text**, that of a clock in UTC to the microsecond. -/
theorem ofJson_fullText : ofJson (.str t.fullText) = .ok (some t) := by
  rw [Instant.fullText_eq, ofJson_clock (by decide), Instant.instant_fullClock]

/-- The characters of a rendered instant are those of timestamps. -/
theorem isStampChar_of_mem_clockText (yearWidth : Nat) :
    ∀ x ∈ Instant.clockText yearWidth t, IsStampChar x := by
  rw [Instant.clockText_eq, Instant.padded, List.forall_mem_append, List.forall_mem_append]
  refine ⟨⟨fun x hx => .inl ⟨0, List.eq_of_mem_replicate hx⟩,
    fun x hx => .inl (exists_of_mem_digitsOf hx)⟩, fun x hx => ?_⟩
  exact isStampChar_of_mem_secondsText t.clock x (List.mem_of_mem_drop hx)

theorem isStampChar_of_mem_text : ∀ x ∈ Instant.clockText 0 t ++ ['Z'], IsStampChar x :=
  List.forall_mem_append.2 ⟨isStampChar_of_mem_clockText t 0,
    List.forall_mem_singleton.2 (.inr (by decide))⟩

/-- Nothing is read of an instant that is rendered with a year of fewer than four digits. -/
theorem read?_text_early {t : Instant} (h : t.date.year < 1000) :
    read? (shorten t.text.toList) = none := by
  have hyear : (Binary64.digitsOf t.date.year).length < 4 :=
    Nat.lt_succ_of_le ((length_digitsOf_le_iff (by decide)).2 h)
  have hpoint : '.' ∉ Instant.clockText 0 t ++ ['Z'] := fun hmem =>
    (isStampChar_of_mem_text t _ hmem).ne_point rfl
  rw [Instant.text, String.toList_ofList, shorten_eq_self hpoint, Instant.clockText_eq,
    Instant.padded_of_le (Nat.zero_le _), List.append_assoc]
  exact read?_eq_none hyear _

/-- A text is the timestamp of an instant in UTC, to the second. -/
def IsStampOf (s : String) (t : Instant) : Prop :=
  ∃ c : Clock, c.fraction = [] ∧ c.instant = t.toSecond ∧
    s = String.ofList (c.text ++ Zone.utc.text)

/-- **The rendered instants that are timestamps** are those from the year 1000 on. -/
theorem isStampOf_text_iff {t : Instant} : IsStampOf t.text t ↔ 1000 ≤ t.date.year := by
  constructor
  · rintro ⟨c, -, -, htext⟩
    refine Nat.le_of_not_lt fun hearly => ?_
    have hnone := read?_text_early hearly
    rw [htext, String.toList_ofList, read?_shorten_text] at hnone
    cases hnone
  · intro hlate
    exact ⟨t.clock, rfl, t.instant_clock, t.text_eq hlate⟩

/-- **They are those that are read back**, and of the others nothing is. -/
theorem ofJson_text : ofJson (.str t.text) =
    .ok (if 1000 ≤ t.date.year then some t.toSecond else none) := by
  split
  · next hlate => rw [t.text_eq hlate, ofJson_clock rfl, t.instant_clock]
  · next hearly =>
    have hlabel : (Json.str t.text).label = t.text :=
      label_of_not_padding fun x hx => (isStampChar_of_mem_text t x hx).not_padding
    rw [ofJson, hlabel, ofLabel, read?_text_early (Nat.lt_of_not_le hearly)]

/-- A morning of the year 999. -/
def morning : Clock where
  date := ⟨999, 5, 6⟩
  hour := ⟨7, by decide⟩
  minute := ⟨8, by decide⟩
  second := ⟨9, by decide⟩
  fraction := []
  exists_date := by decide

/-- **A timestamp of the year 999 is read, and what is rendered of it is not.** -/
theorem not_read_back_morning :
    ofJson (.str "0999-05-06T07:08:09Z") = .ok (some morning.instant) ∧
      morning.instant.text = "999-05-06T07:08:09Z" ∧
      ofJson (.str "999-05-06T07:08:09Z") = .ok none ∧
      ¬ ∀ (j : Json) (t : Instant), ofJson j = .ok (some t) →
        ofJson (.str t.text) = .ok (some t.toSecond) := by
  have hwritten : String.ofList (morning.text ++ Zone.utc.text) = "0999-05-06T07:08:09Z" := by
    decide
  have hread : ofJson (.str "0999-05-06T07:08:09Z") = .ok (some morning.instant) := by
    rw [← hwritten, ofJson_clock rfl]
  have hrendered : morning.instant.text = "999-05-06T07:08:09Z" := by decide +kernel
  have hnone : ofJson (.str morning.instant.text) = .ok none := by
    rw [ofJson_text, morning.date_instant]
    rfl
  refine ⟨hread, hrendered, hrendered ▸ hnone, fun hall => ?_⟩
  rw [hall _ _ hread] at hnone
  cases hnone

end Timestamp

/-! ## Seconds since 1970 -/

namespace Binary64

theorem ofInt_microsPerSecond :
    ofInt microsPerSecond = .finite false (microsPerSecond * unitsPerOne) := by
  decide +kernel

theorem nearestWhole_mul_nonneg (u v : Nat) :
    0 ≤ ((finite false u).mul (finite false v)).nearestWhole := by
  rw [mul, ofUnits]
  split
  · exact Int.natCast_nonneg _
  · exact Int.le_refl 0

end Binary64

namespace Instant

/-- An instant on a day or after it has the year of the day or a later one. -/
theorem year_of_le {t : Instant} {year : Nat}
    (h : Date.daysBeforeYear year * microsPerDay ≤ t.micros) : year ≤ t.date.year := by
  have hday : Date.daysBeforeYear year ≤ t.date.dayNumber := by
    rw [date, Date.dayNumber_ofDayNumber]
    exact (Nat.le_div_iff_mul_le (by decide)).2 h
  refine Nat.le_of_not_lt fun hbefore => ?_
  have hnext := t.exists_date.dayNumber_lt_succ
  have hmono : Date.daysBeforeYear (t.date.year + 1) ≤ Date.daysBeforeYear year :=
    Date.monotone_daysBeforeYear hbefore
  omega

/-- **Some seconds come to an instant from 1970 on.** -/
theorem year_of_ofSeconds? {x : Binary64} {t : Instant} (h : ofSeconds? x = some t) :
    1970 ≤ t.date.year := by
  unfold ofSeconds? at h
  split at h
  · next units =>
    split at h
    · cases h
    · have hstart : Date.daysBeforeYear 1970 = epochDay := rfl
      have hwhole : 0 ≤ (Binary64.finite false units).wholePart * microsPerSecond :=
        Int.mul_nonneg (Int.natCast_nonneg _) (Int.natCast_nonneg _)
      have hfraction := Binary64.nearestWhole_mul_nonneg (units % Binary64.unitsPerOne)
        (microsPerSecond * Binary64.unitsPerOne)
      have hmicros := ofMicros?_eq_some_iff.1 h
      rw [Binary64.fraction, Binary64.ofInt_microsPerSecond] at hmicros
      refine year_of_le ?_
      rw [hstart]
      omega
  · cases h

end Instant

end ArchiveCensus
