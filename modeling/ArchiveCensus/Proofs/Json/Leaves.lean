import Mathlib.Data.List.TakeWhile
import ArchiveCensus.Proofs.Json.Grammar
import ArchiveCensus.Proofs.Outcome

/-!
# Proofs/Json/Leaves — quoted texts and numbers are read as the grammar has them

* `readText_eq_ok_iff` — a text is read exactly where letters and a closing quote stand.
* `readUnsigned_sound` — what is read of a number stands for it.
* `readNumber_of_spells` — a number is read up to where it ends.
* `readNumber_of_tooLong` — a number with too many digits is refused for them.

What is read is followed by something that was not, so each is shown for a text with a rest.
-/

namespace ArchiveCensus.Json

open Text Outcome

/-! ## Blanks -/

theorem skip_append {ws : List Char} (h : IsGap ws) (cs : List Char) : skip (ws ++ cs) = skip cs :=
  List.dropWhile_append_of_pos h

theorem skip_cons {c : Char} (h : isGap c = false) (cs : List Char) : skip (c :: cs) = c :: cs := by
  simp [skip, h]

theorem skip_gap_append {ws : List Char} (h : IsGap ws) {c : Char} (hc : isGap c = false)
    (cs : List Char) : skip (ws ++ c :: cs) = c :: cs := by
  rw [skip_append h, skip_cons hc]

/-- What is skipped is a gap. -/
theorem exists_gap_append_skip (cs : List Char) : ∃ ws, IsGap ws ∧ cs = ws ++ skip cs :=
  ⟨cs.takeWhile isGap, fun _ hc => (List.mem_takeWhile_imp hc),
    (List.takeWhile_append_dropWhile).symm⟩

/-- A mark behind a gap may be followed by a gap of its own. -/
theorem exists_gaps_of_skip {cs rest : List Char} {c : Char} (h : skip cs = c :: rest) :
    ∃ ws ws', IsGap ws ∧ IsGap ws' ∧ cs = ws ++ c :: ws' ++ skip rest := by
  obtain ⟨ws, hws, hcs⟩ := exists_gap_append_skip cs
  obtain ⟨ws', hws', hrest⟩ := exists_gap_append_skip rest
  refine ⟨ws, ws', hws, hws', ?_⟩
  rw [List.append_assoc, List.cons_append, ← hrest, ← h, ← hcs]

/-! ## Quoted texts -/

/-- No unit is both halves of a pair. -/
theorem isLowUnit_of_isHighUnit {u : Nat} (h : isHighUnit u = true) : isLowUnit u = false := by
  simp only [isHighUnit, isLowUnit, Bool.and_eq_true, decide_eq_true_eq, Bool.and_eq_false_iff,
    decide_eq_false_iff_not] at *
  omega

/-- What is found ahead is the escape of a second half. -/
theorem exists_escape_of_lowAhead? {cs rest : List Char} {v : Nat}
    (h : lowAhead? cs = some (v, rest)) : isLowUnit v = true ∧ ∃ a b c d,
      hexUnit? a b c d = some v ∧ cs = '\\' :: 'u' :: a :: b :: c :: d :: rest := by
  unfold lowAhead? at h
  split at h
  · rename_i a b c d rest'
    obtain ⟨v', hv, h⟩ := Option.bind_eq_some_iff.1 h
    split at h
    · cases h
      exact ⟨‹_›, a, b, c, d, hv, rfl⟩
    · cases h
  · cases h

/-- A letter is ahead as a second half exactly where it is one. -/
theorem SpellsLetter.lowAhead?_eq_none_iff {mark : List Char} {l : Letter}
    (h : SpellsLetter mark l) (rest : List Char) :
    lowAhead? (mark ++ rest) = none ↔ l.isSecond = false := by
  cases h with
  | plain _ _ hslash => simp [lowAhead?, hslash, Letter.isSecond]
  | @short e c he =>
    have hu : e ≠ 'u' := by
      rintro rfl
      cases he
    simp [lowAhead?, hu, Letter.isSecond]
  | unit hu _ hlow => simp [lowAhead?, hu, hlow, Letter.isSecond]
  | pair hu hhigh _ _ =>
    simp [lowAhead?, hu, isLowUnit_of_isHighUnit hhigh, Letter.isSecond]
  | half _ hu => simp [lowAhead?, hu, Letter.isSecond]

/-- The escape of a unit stands for a letter by itself, or with that of a second half; and the
second half is not left behind. -/
theorem exists_mark_of_unitEscape? {a b c d : Char} {l : Letter} {rest rest' : List Char}
    (h : unitEscape? a b c d rest = some (l, rest')) :
    ∃ mark, SpellsLetter mark l ∧ '\\' :: 'u' :: a :: b :: c :: d :: rest = mark ++ rest' ∧
      (l.isFirst = true → lowAhead? rest' = none) := by
  obtain ⟨u, hu, h⟩ := Option.bind_eq_some_iff.1 h
  split at h
  · rename_i hhigh
    split at h
    · rename_i v rest'' hahead
      cases h
      obtain ⟨hlow, e, f, g, k, hv, rfl⟩ := exists_escape_of_lowAhead? hahead
      exact ⟨_, .pair hu hhigh hv hlow, rfl, nofun⟩
    · rename_i hahead
      cases h
      exact ⟨_, .half _ hu, rfl, fun _ => hahead⟩
  · rename_i hhigh
    split at h
    · cases h
      exact ⟨_, .half _ hu, rfl, fun hfirst => absurd hfirst hhigh⟩
    · rename_i hlow
      cases h
      exact ⟨_, .unit hu (by simpa using hhigh) (by simpa using hlow), rfl, nofun⟩

/-- What is read as a letter stands for it. -/
theorem exists_mark_of_quotedLetter? {cs rest : List Char} {l : Letter}
    (h : quotedLetter? cs = some (l, rest)) :
    ∃ mark, SpellsLetter mark l ∧ cs = mark ++ rest ∧
      (l.isFirst = true → lowAhead? rest = none) := by
  unfold quotedLetter? at h
  split at h
  · exact exists_mark_of_unitEscape? h
  · obtain ⟨y, he, h⟩ := Option.map_eq_some_iff.1 h
    cases h
    exact ⟨_, .short he, rfl, nofun⟩
  · split at h
    · cases h
    · rename_i hplain
      cases h
      simp only [not_or, Nat.not_lt] at hplain
      exact ⟨_, .plain hplain.1 hplain.2.1 hplain.2.2, rfl, nofun⟩
  · cases h

/-- What stands for a letter is read as it, unless it is the first half of a pair with what comes
behind it. -/
theorem quotedLetter?_append {mark : List Char} {l : Letter} (h : SpellsLetter mark l)
    {rest : List Char} (hrest : l.isFirst = true → lowAhead? rest = none) :
    quotedLetter? (mark ++ rest) = some (l, rest) := by
  cases h with
  | plain hcontrol hquote hslash =>
    rw [List.singleton_append]
    unfold quotedLetter?
    split
    · exact absurd (List.cons.inj ‹_›).1 hslash
    · exact absurd (List.cons.inj ‹_›).1 hslash
    · obtain ⟨rfl, rfl⟩ := List.cons.inj ‹_›
      exact if_neg (by simp [hquote, hslash, hcontrol])
    · simp_all
  | short he =>
    -- a `u` is that of a unit, so the first pattern cannot take this escape
    have hu : shortEscape? 'u' = none := rfl
    rw [List.cons_append, List.singleton_append]
    unfold quotedLetter?
    split
    · obtain ⟨rfl, -⟩ := List.cons.inj (List.cons.inj ‹_›).2
      rw [hu] at he
      cases he
    · obtain ⟨rfl, rfl⟩ := List.cons.inj (List.cons.inj ‹_›).2
      rw [he, Option.map_some]
    · rename_i hother heq
      obtain ⟨rfl, rfl⟩ := List.cons.inj heq
      exact absurd rfl (hother _ _ rfl)
    · simp_all
  | unit hu hhigh hlow =>
    simp [quotedLetter?, unitEscape?, hu, hhigh, hlow]
  | pair hu hhigh hv hlow =>
    simp [quotedLetter?, unitEscape?, lowAhead?, hu, hhigh, hv, hlow]
  | @half a b c d u isHalf hu =>
    by_cases hhigh : isHighUnit u = true
    · simp [quotedLetter?, unitEscape?, hu, hhigh, hrest hhigh]
    · have hlow : isLowUnit u = true := isHalf.resolve_left hhigh
      simp [quotedLetter?, unitEscape?, hu, hhigh, hlow]

/-- What stands for a letter is not nothing, and is no closing quote. -/
theorem SpellsLetter.exists_cons {mark : List Char} {l : Letter} (h : SpellsLetter mark l) :
    ∃ m rest, mark = m :: rest ∧ m ≠ '"' := by
  cases h with
  | plain _ hquote _ => exact ⟨_, _, rfl, hquote⟩
  | short _ => exact ⟨_, _, rfl, by decide⟩
  | unit _ _ _ => exact ⟨_, _, rfl, by decide⟩
  | pair _ _ _ _ => exact ⟨_, _, rfl, by decide⟩
  | half _ _ => exact ⟨_, _, rfl, by decide⟩

/-- A second half is ahead of letters exactly where the first of them is one. -/
theorem SpellsLetters.lowAhead?_eq_none_iff {body : List Char} {ls : List Letter}
    (h : SpellsLetters body ls) (rest : List Char) :
    lowAhead? (body ++ '"' :: rest) = none ↔ ∀ l, ls.head? = some l → l.isSecond = false := by
  cases h with
  | nil => exact iff_of_true rfl nofun
  | cons hmark _ _ => simp [hmark.lowAhead?_eq_none_iff]

theorem readQuoted_succ {fuel : Nat} {cs rest : List Char} {l : Letter} {m : Char} (hm : m ≠ '"')
    (h : quotedLetter? (m :: cs) = some (l, rest)) :
    readQuoted (fuel + 1) (m :: cs) =
      readQuoted fuel rest >>= fun step => .ok (l :: step.1, step.2) := by
  rw [readQuoted, h]
  · rfl
  · exact fun _ he => hm (List.cons.inj he).1

/-- What is read between quotes stands for it. -/
theorem spellsLetters_of_readQuoted :
    ∀ {fuel : Nat} {cs rest : List Char} {ls : List Letter}, readQuoted fuel cs = .ok (ls, rest) →
      ∃ body, SpellsLetters body ls ∧ cs = body ++ '"' :: rest
  | 0, _, _, _, h => by cases h
  | fuel + 1, cs, rest, ls, h => by
      unfold readQuoted at h
      split at h
      · cases h
        exact ⟨[], .nil, rfl⟩
      · split at h
        · cases h
        · rename_i l rest' hl
          obtain ⟨⟨more, rest''⟩, hmore, h⟩ := bind_eq_ok_iff.1 h
          cases h
          obtain ⟨mark, hmark, rfl, hahead⟩ := exists_mark_of_quotedLetter? hl
          obtain ⟨body, hbody, rfl⟩ := spellsLetters_of_readQuoted hmore
          refine ⟨mark ++ body, .cons hmark hbody fun hfirst => ?_, (List.append_assoc ..).symm⟩
          exact (hbody.lowAhead?_eq_none_iff rest).1 (hahead hfirst)

/-- What stands for letters is read up to the closing quote. -/
theorem readQuoted_of_spellsLetters {body : List Char} {ls : List Letter}
    (h : SpellsLetters body ls) (rest : List Char) {fuel : Nat} (hfuel : body.length < fuel) :
    readQuoted fuel (body ++ '"' :: rest) = .ok (ls, rest) := by
  induction h generalizing fuel with
  | nil =>
    obtain ⟨fuel, rfl⟩ := Nat.exists_eq_succ_of_ne_zero (by omega : fuel ≠ 0)
    rfl
  | @cons mark body l ls hmark hbody hhead ih =>
    obtain ⟨fuel, rfl⟩ := Nat.exists_eq_succ_of_ne_zero (by omega : fuel ≠ 0)
    have hread : quotedLetter? (mark ++ (body ++ '"' :: rest)) = some (l, body ++ '"' :: rest) :=
      quotedLetter?_append hmark fun hfirst => (hbody.lowAhead?_eq_none_iff rest).2 (hhead hfirst)
    obtain ⟨m, more, rfl, hm⟩ := hmark.exists_cons
    simp only [List.length_append, List.length_cons] at hfuel
    rw [List.cons_append] at hread
    rw [List.append_assoc, List.cons_append, readQuoted_succ hm hread, ih (by omega)]
    rfl

/-- Between quotes there is only one way to fail. -/
theorem readQuoted_error :
    ∀ {fuel : Nat} {cs : List Char} {e : ReadError}, readQuoted fuel cs = .error e → e = .malformed
  | 0, _, _, h => by cases h; rfl
  | fuel + 1, cs, e, h => by
      unfold readQuoted at h
      split at h
      · cases h
      · split at h
        · cases h
          rfl
        · obtain h | ⟨_, _, h⟩ := bind_eq_error_iff.1 h
          · exact readQuoted_error h
          · cases h

/-- **A text is read after its opening quote exactly where letters and a closing quote are.** -/
theorem readText_eq_ok_iff {cs rest : List Char} {ls : List Letter} :
    readText cs = .ok (ls, rest) ↔ ∃ body, SpellsLetters body ls ∧ cs = body ++ '"' :: rest := by
  constructor
  · exact spellsLetters_of_readQuoted
  · rintro ⟨body, hbody, rfl⟩
    refine readQuoted_of_spellsLetters hbody rest ?_
    simp only [List.length_append, List.length_cons]
    omega

theorem readText_error {cs : List Char} {e : ReadError} (h : readText cs = .error e) :
    e = .malformed :=
  readQuoted_error h

/-! ## Digits -/

theorem ne_of_isDigit {c d : Char} (hc : isDigit c = true) (hd : isDigit d = false) : c ≠ d := by
  rintro rfl
  rw [hc] at hd
  cases hd

/-- Digits are taken up to what is no digit. -/
theorem takeWhile_digits {ds rest : List Char} (hds : ∀ c ∈ ds, isDigit c = true)
    (hrest : ∀ c, rest.head? = some c → isDigit c = false) :
    (ds ++ rest).takeWhile isDigit = ds := by
  rw [List.takeWhile_append_of_pos hds]
  cases rest with
  | nil => simp
  | cons c rest => simp [hrest c rfl]

/-- What is taken is digits, and no digit follows. -/
theorem exists_takeWhile_digits (cs : List Char) :
    ∃ rest, cs = cs.takeWhile isDigit ++ rest ∧ (∀ c ∈ cs.takeWhile isDigit, isDigit c = true) ∧
      ∀ c, rest.head? = some c → isDigit c = false := by
  refine ⟨cs.dropWhile isDigit, (List.takeWhile_append_dropWhile).symm,
    fun _ => List.mem_takeWhile_imp, fun c hc => ?_⟩
  have := List.head?_dropWhile_not isDigit cs
  rw [hc] at this
  simpa using this

theorem isDigits_takeWhile {cs : List Char} (h : cs.takeWhile isDigit ≠ []) :
    IsDigits (cs.takeWhile isDigit) :=
  ⟨h, fun _ => List.mem_takeWhile_imp⟩

/-- Digits and whatever follows them have a digit at their front. -/
theorem IsDigits.exists_cons {ds : List Char} (h : IsDigits ds) :
    ∃ d more, ds = d :: more ∧ isDigit d = true := by
  obtain ⟨hne, hall⟩ := h
  obtain ⟨d, more, rfl⟩ := List.exists_cons_of_ne_nil hne
  exact ⟨d, more, rfl, hall d (by simp)⟩

theorem IsDigits.takeWhile_ne_nil {ds : List Char} (h : IsDigits ds) (rest : List Char) :
    (ds ++ rest).takeWhile isDigit ≠ [] := by
  obtain ⟨d, more, rfl, hd⟩ := h.exists_cons
  simp [hd]

theorem IsWhole.isDigits {ds : List Char} (h : IsWhole ds) : IsDigits ds := by
  obtain rfl | ⟨h, -⟩ := h
  · exact ⟨List.cons_ne_nil _ _, List.forall_mem_singleton.2 rfl⟩
  · exact h

/-- The digits before the point are all that stand there, and no digit follows unless they are a
lone zero. -/
theorem exists_wholeDigits {cs : List Char} (h : wholeDigits cs ≠ []) :
    ∃ rest, cs = wholeDigits cs ++ rest ∧ IsWhole (wholeDigits cs) ∧
      (wholeDigits cs ≠ ['0'] → ∀ c, rest.head? = some c → isDigit c = false) := by
  unfold wholeDigits at h ⊢
  split
  · exact ⟨_, rfl, .inl rfl, fun hne => absurd rfl hne⟩
  · rename_i hzero
    obtain ⟨rest, hcs, hds, hrest⟩ := exists_takeWhile_digits cs
    refine ⟨rest, hcs, .inr ⟨⟨?_, hds⟩, fun hhead => ?_⟩, fun _ => hrest⟩
    · intro he
      simp [he] at h
    · obtain ⟨more, hmore⟩ := List.head?_eq_some_iff.1 hhead
      rw [hmore, List.cons_append] at hcs
      exact hzero _ hcs

theorem wholeDigits_append {ds rest : List Char} (h : IsWhole ds)
    (hrest : ∀ c, rest.head? = some c → isDigit c = false) : wholeDigits (ds ++ rest) = ds := by
  obtain rfl | ⟨⟨hne, hall⟩, hzero⟩ := h
  · rfl
  · unfold wholeDigits
    split
    · rename_i heq
      obtain ⟨d, more, rfl⟩ := List.exists_cons_of_ne_nil hne
      obtain ⟨rfl, -⟩ := List.cons.inj heq
      exact absurd rfl hzero
    · exact takeWhile_digits hall hrest

/-! ## Fractions and exponents -/

theorem drop_length_of_eq {cs front rest : List Char} (h : cs = front ++ rest) :
    cs.drop front.length = rest := by
  rw [h, List.drop_left]

/-- The digits of a fraction are read, and with them all of the fraction. -/
theorem exists_fraction (cs : List Char) :
    ∃ ft rest, SpellsFraction ft (fractionDigits cs) ∧ cs = ft ++ rest ∧
      (if (fractionDigits cs).isEmpty then cs else cs.drop ((fractionDigits cs).length + 1)) =
        rest := by
  by_cases h : fractionDigits cs = []
  · exact ⟨[], cs, h ▸ .absent, rfl, by simp [h]⟩
  · unfold fractionDigits at h ⊢
    split at h
    · rename_i cs'
      obtain ⟨rest, hcs, -, -⟩ := exists_takeWhile_digits cs'
      refine ⟨'.' :: cs'.takeWhile isDigit, rest, .digits (isDigits_takeWhile h), ?_, ?_⟩
      · rw [List.cons_append, ← hcs]
      · rw [if_neg (by simpa using h), List.drop_succ_cons]
        exact drop_length_of_eq hcs
    · exact (h rfl).elim

theorem fractionDigits_append {ft fs rest : List Char} (h : SpellsFraction ft fs)
    (hrest : ∀ c, rest.head? = some c → isDigit c = false)
    (hpoint : ∀ fs more, IsDigits fs → rest ≠ '.' :: fs ++ more) :
    fractionDigits (ft ++ rest) = fs := by
  cases h with
  | absent =>
    rw [List.nil_append]
    unfold fractionDigits
    split
    · rename_i cs
      obtain ⟨more, hcs, -, -⟩ := exists_takeWhile_digits cs
      by_contra h
      exact hpoint _ more (isDigits_takeWhile h) (by rw [List.cons_append, ← hcs])
    · rfl
  | digits hfs => exact takeWhile_digits hfs.2 hrest

/-- A point and a digit at the front are a fraction. -/
theorem fractionDigits_ne_nil {fs : List Char} (h : IsDigits fs) (more : List Char) :
    fractionDigits ('.' :: fs ++ more) ≠ [] :=
  h.takeWhile_ne_nil more

theorem exists_sign (cs : List Char) :
    ∃ sign, (sign = minus (Numeral.sign cs).1 ∨ sign = ['+'] ∧ (Numeral.sign cs).1 = false) ∧
      cs = sign ++ (Numeral.sign cs).2 := by
  unfold Numeral.sign
  split
  · exact ⟨['-'], .inl rfl, rfl⟩
  · exact ⟨['+'], .inr ⟨rfl, rfl⟩, rfl⟩
  · exact ⟨[], .inl rfl, rfl⟩

theorem sign_append {sign ds : List Char} {negative : Bool}
    (hsign : sign = minus negative ∨ sign = ['+'] ∧ negative = false) (hds : IsDigits ds)
    (rest : List Char) : Numeral.sign (sign ++ (ds ++ rest)) = (negative, ds ++ rest) := by
  obtain ⟨d, more, rfl, hd⟩ := hds.exists_cons
  have hminus : d ≠ '-' := ne_of_isDigit hd (by decide)
  have hplus : d ≠ '+' := ne_of_isDigit hd (by decide)
  obtain rfl | ⟨rfl, rfl⟩ := hsign
  · cases negative with
    | true => rfl
    | false => simp [minus, Numeral.sign, hminus, hplus]
  · rfl

theorem exponent?_cons {e : Char} (he : e = 'e' ∨ e = 'E') (cs : List Char) :
    exponent? (e :: cs) =
      if ((Numeral.sign cs).2.takeWhile isDigit).isEmpty then none
      else some (Numeral.signedValue (Numeral.sign cs).1
          (digitsValue ((Numeral.sign cs).2.takeWhile isDigit)),
        1 + (cs.length - (Numeral.sign cs).2.length) +
          ((Numeral.sign cs).2.takeWhile isDigit).length) := by
  rw [exponent?, if_pos he]

/-- What is read as an exponent is one. -/
theorem spellsExponent_of_exponent? {cs : List Char} {e : Int} {length : Nat}
    (h : exponent? cs = some (e, length)) :
    ∃ et, SpellsExponent et e ∧ cs = et ++ cs.drop length := by
  cases cs with
  | nil => cases h
  | cons c cs =>
    by_cases hc : c = 'e' ∨ c = 'E'
    · rw [exponent?_cons hc] at h
      split at h
      · cases h
      · rename_i hds
        cases h
        obtain ⟨sign, hsign, hcs⟩ := exists_sign cs
        obtain ⟨rest, hbody, -, -⟩ := exists_takeWhile_digits (Numeral.sign cs).2
        have hdigits := isDigits_takeWhile (by simpa using hds)
        refine ⟨_, .mk hc hsign hdigits, ?_⟩
        have hall : c :: cs = c :: sign ++ (Numeral.sign cs).2.takeWhile isDigit ++ rest := by
          rw [List.append_assoc, ← hbody, List.cons_append, ← hcs]
        have hlength : 1 + (cs.length - (Numeral.sign cs).2.length) +
            ((Numeral.sign cs).2.takeWhile isDigit).length =
              (c :: sign ++ (Numeral.sign cs).2.takeWhile isDigit).length := by
          have hlen := congrArg List.length hcs
          simp only [List.length_append, List.length_cons] at hlen ⊢
          omega
        rw [hlength, drop_length_of_eq hall]
        exact hall
    · rw [exponent?, if_neg hc] at h
      cases h

theorem exponent?_append {et : List Char} {e : Int} (h : SpellsExponent et e)
    {rest : List Char} (hrest : ∀ c, rest.head? = some c → isDigit c = false) :
    exponent? (et ++ rest) = some (e, et.length) := by
  obtain ⟨he, hsign, hds⟩ := h
  rename_i e sign ds negative
  rw [List.append_assoc, List.cons_append, exponent?_cons he, sign_append hsign hds,
    takeWhile_digits hds.2 hrest, if_neg (by simpa using hds.1)]
  simp only [List.length_append, List.length_cons, Option.some.injEq, Prod.mk.injEq, true_and]
  omega

/-- An exponent at the front is read as some exponent, whatever follows it. -/
theorem exponent?_append_ne_none {et : List Char} {e : Int} (h : SpellsExponent et e)
    (rest : List Char) : exponent? (et ++ rest) ≠ none := by
  obtain ⟨he, hsign, hds⟩ := h
  rename_i e sign ds negative
  rw [List.append_assoc, List.cons_append, exponent?_cons he, sign_append hsign hds,
    if_neg (by simpa using hds.takeWhile_ne_nil rest)]
  exact Option.some_ne_none _

/-- A number ends where the reader finds no digit, no fraction and no exponent. -/
theorem endsNumber_of_read {rest : List Char}
    (hdigit : ∀ c, rest.head? = some c → isDigit c = false)
    (hfraction : fractionDigits rest = []) (hexponent : exponent? rest = none) :
    EndsNumber rest where
  digit := hdigit
  fraction _ more hfs he := fractionDigits_ne_nil hfs more (he ▸ hfraction)
  exponent _ _ more het he := exponent?_append_ne_none het more (he ▸ hexponent)

theorem EndsNumber.exponent?_eq_none {rest : List Char} (h : EndsNumber rest) :
    exponent? rest = none := by
  cases he : exponent? rest with
  | none => rfl
  | some r =>
    obtain ⟨et, het, hrest⟩ := spellsExponent_of_exponent? (he : _ = some (r.1, r.2))
    exact absurd hrest (h.exponent et r.1 _ het)

/-! ## Numbers -/

/-- Reads a number after its sign. -/
def readUnsigned (negative : Bool) (body : List Char) : Except ReadError (Step Number) :=
  let ds := wholeDigits body
  if ds.isEmpty then malformed
  else
    let rest := body.drop ds.length
    let fs := fractionDigits rest
    let rest := if fs.isEmpty then rest else rest.drop (fs.length + 1)
    match exponent? rest with
    | some (e, length) =>
        .ok (.double (.ofDecimal negative (digitsValue (ds ++ fs)) (e - fs.length)),
          rest.drop length)
    | none =>
        if fs.isEmpty then
          if ds.length ≤ Numeral.maxDigits then
            .ok (.whole (Numeral.signedValue negative (digitsValue ds)), rest)
          else .error (.wholeTooLong ds.length)
        else .ok (.double (.ofDecimal negative (digitsValue (ds ++ fs)) (-fs.length)), rest)

/-- A sign is read before everything else of a number. -/
theorem exists_readUnsigned (cs : List Char) :
    ∃ negative body, cs = minus negative ++ body ∧ readNumber cs = readUnsigned negative body := by
  unfold readNumber
  split
  · rename_i heq
    split at heq
    · cases heq
      exact ⟨_, _, rfl, rfl⟩
    · cases heq
      exact ⟨false, cs, rfl, rfl⟩

theorem readNumber_minus_append {ds : List Char} (hds : IsDigits ds) (negative : Bool)
    (rest : List Char) :
    readNumber (minus negative ++ (ds ++ rest)) = readUnsigned negative (ds ++ rest) := by
  obtain ⟨d, more, rfl, hd⟩ := hds.exists_cons
  cases negative with
  | true => rfl
  | false =>
    have hminus : d ≠ '-' := ne_of_isDigit hd (by decide)
    unfold readNumber
    split
    · rename_i heq
      split at heq
      · exact absurd (List.cons.inj ‹_›).1 hminus
      · cases heq
        rfl

/-- What is read of a number stands for it, and a number that is too long is followed by nothing
that carries it on. -/
theorem readUnsigned_sound (negative : Bool) (body : List Char) :
    match readUnsigned negative body with
    | .ok (n, rest) => ∃ text, SpellsNumber (minus negative ++ text) n ∧ body = text ++ rest
    | .error .malformed => True
    | .error (.wholeTooLong digits) =>
        ∃ ds rest, IsWhole ds ∧ ds.length = digits ∧ Numeral.maxDigits < digits ∧
          EndsNumber rest ∧ body = ds ++ rest := by
  unfold readUnsigned
  dsimp only
  by_cases hds : wholeDigits body = []
  · simp [hds, malformed]
  rw [if_neg (by simpa using hds)]
  obtain ⟨rest₁, hbody, hwhole, hdigit⟩ := exists_wholeDigits hds
  obtain ⟨ft, rest₂, hft, hrest₁, hrest₂⟩ := exists_fraction rest₁
  rw [drop_length_of_eq hbody, hrest₂]
  generalize wholeDigits body = ds at *
  subst hbody
  cases hexp : exponent? rest₂ with
  | some r =>
    obtain ⟨et, het, hrest⟩ := spellsExponent_of_exponent? (hexp : _ = some (r.1, r.2))
    refine ⟨ds ++ (ft ++ et), .exponent negative hwhole hft het, ?_⟩
    rw [List.append_assoc, List.append_assoc, ← hrest, ← hrest₁]
  | none =>
    dsimp only
    by_cases hfs : fractionDigits rest₁ = []
    · rw [if_pos (by simpa using hfs)]
      rw [if_pos (by simpa using hfs)] at hrest₂
      subst hrest₂
      split_ifs with hlen
      · exact ⟨ds, .whole negative hwhole hlen, rfl⟩
      · refine ⟨ds, rest₁, hwhole, rfl, Nat.lt_of_not_le hlen,
          endsNumber_of_read (hdigit ?_) hfs hexp, rfl⟩
        rintro rfl
        exact hlen (by decide)
    · rw [if_neg (by simpa using hfs)]
      generalize fractionDigits rest₁ = fs at *
      cases hft with
      | absent => exact absurd rfl hfs
      | digits hdigits =>
        refine ⟨ds ++ '.' :: fs, .fraction negative hwhole hdigits, ?_⟩
        rw [List.append_assoc, ← hrest₁]

/-- A number is read digit by digit, fraction and all, up to where an exponent may start. -/
theorem readUnsigned_append {ds ft fs rest : List Char} (negative : Bool) (hds : IsWhole ds)
    (hft : SpellsFraction ft fs) (hdigit : ∀ c, rest.head? = some c → isDigit c = false)
    (hpoint : ∀ fs more, IsDigits fs → rest ≠ '.' :: fs ++ more) :
    readUnsigned negative (ds ++ (ft ++ rest)) =
      match exponent? rest with
      | some (e, length) =>
          .ok (.double (.ofDecimal negative (digitsValue (ds ++ fs)) (e - fs.length)),
            rest.drop length)
      | none =>
          if fs.isEmpty then
            if ds.length ≤ Numeral.maxDigits then
              .ok (.whole (Numeral.signedValue negative (digitsValue ds)), rest)
            else .error (.wholeTooLong ds.length)
          else .ok (.double (.ofDecimal negative (digitsValue (ds ++ fs)) (-fs.length)), rest) := by
  have hfront : ∀ c, (ft ++ rest).head? = some c → isDigit c = false := by
    cases hft with
    | absent => exact hdigit
    | digits _ => rintro c ⟨⟩; decide
  have hskip : (if fs.isEmpty then ft ++ rest else (ft ++ rest).drop (fs.length + 1)) = rest := by
    cases hft with
    | absent => rfl
    | digits hfs =>
      rw [if_neg (by simpa using hfs.1)]
      exact drop_length_of_eq rfl
  unfold readUnsigned
  dsimp only
  rw [wholeDigits_append hds hfront, if_neg (by simpa using hds.isDigits.1), List.drop_left,
    fractionDigits_append hft hdigit hpoint, hskip]

theorem SpellsExponent.head_eq {et : List Char} {e : Int} (h : SpellsExponent et e)
    (rest : List Char) {c : Char} (hc : (et ++ rest).head? = some c) : c = 'e' ∨ c = 'E' := by
  obtain ⟨he, -, -⟩ := h
  cases hc
  exact he

/-- **A number is read up to where it ends.** -/
theorem readNumber_of_spells {cs rest : List Char} {n : Number} (h : SpellsNumber cs n)
    (hrest : EndsNumber rest) : readNumber (cs ++ rest) = .ok (n, rest) := by
  cases h with
  | @whole ds negative hds hlen =>
    rw [List.append_assoc, readNumber_minus_append hds.isDigits, ← List.nil_append rest,
      readUnsigned_append negative hds .absent hrest.digit hrest.fraction,
      hrest.exponent?_eq_none]
    simp [hlen]
  | @fraction ds fs negative hds hfs =>
    rw [List.append_assoc, List.append_assoc, readNumber_minus_append hds.isDigits,
      readUnsigned_append negative hds (.digits hfs) hrest.digit hrest.fraction,
      hrest.exponent?_eq_none]
    simp [hfs.1]
  | @exponent ds ft fs et e negative hds hft het =>
    have hdigit : ∀ c, (et ++ rest).head? = some c → isDigit c = false := by
      intro c hc
      obtain rfl | rfl := het.head_eq rest hc <;> decide
    have hpoint : ∀ fs more, IsDigits fs → et ++ rest ≠ '.' :: fs ++ more := by
      intro fs more _ he
      obtain h | h := het.head_eq rest (he ▸ rfl : (et ++ rest).head? = some '.') <;> cases h
    rw [List.append_assoc, List.append_assoc, readNumber_minus_append hds.isDigits,
      List.append_assoc, readUnsigned_append negative hds hft hdigit hpoint,
      exponent?_append het hrest.digit]
    dsimp only
    rw [List.drop_left]

/-- A number with too many digits is refused for them. -/
theorem readNumber_of_tooLong {ds rest : List Char} (negative : Bool) (hds : IsWhole ds)
    (hlen : Numeral.maxDigits < ds.length) (hrest : EndsNumber rest) :
    readNumber (minus negative ++ (ds ++ rest)) = .error (.wholeTooLong ds.length) := by
  rw [readNumber_minus_append hds.isDigits, ← List.nil_append rest,
    readUnsigned_append negative hds .absent hrest.digit hrest.fraction, hrest.exponent?_eq_none]
  simp [Nat.not_le.2 hlen]

end ArchiveCensus.Json
