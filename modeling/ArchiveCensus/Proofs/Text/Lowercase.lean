import Mathlib.Data.List.Basic
import ArchiveCensus.Number.Numeral
import ArchiveCensus.Text.Lowercase
import ArchiveCensus.Proofs.Text.Padding

/-!
# Proofs/Text/Lowercase — what lower case changes, and what it does not see

Lower case is taken character by character, but for the sigma, whose form depends on whether case
starts before it and behind it.  Where case starts is all of the context that matters
(`lowerAfter_congr`), so whatever does not change that is not seen.

* `mem_lower` — lower case brings in letters only.
* `lower_lower` — a text in lower case stays as it is.
* `lowerAfter_map_asciiLower` — the case of the letters of ASCII makes no difference.
* `trim_lower` — a text is trimmed before or after.
* `lower_dot` — a dot in front stays in front.
-/

namespace ArchiveCensus.Text

open Numeral

variable {c d : Char} {cs front back before before' : List Char}

/-! ## Runs -/

namespace CaseRun

variable {r r' : CaseRun} {n : Nat}

/-- A code point is in a run. -/
def Holds (r : CaseRun) (n : Nat) : Prop :=
  r.first ≤ n ∧ n ≤ r.last ∧ (n - r.first) % r.stride = 0

/-- Where a run takes a code point. -/
def target (r : CaseRun) (n : Nat) : Nat := (n + r.shift).toNat

/-- Whether a run goes nowhere in another one: it ends before it, starts behind it, or goes between
the code points in it. -/
def isClearOf (r r' : CaseRun) : Bool :=
  (r.target r.last).blt r'.first || r'.last.blt (r.target r.first) ||
    (r'.stride.beq 2 && (r.stride.beq 2 || r.first.beq r.last) &&
      ((r.target r.first - r'.first) % 2).beq 1)

theorem not_holds_target (h : r.isClearOf r' = true) (hn : r.Holds n) :
    ¬ r'.Holds (r.target n) := by
  rintro ⟨hfirst, hlast, hstride⟩
  obtain ⟨hfirst', hlast', hstride'⟩ := hn
  simp only [isClearOf, target, Bool.or_eq_true, Bool.and_eq_true, Nat.blt_eq, Nat.beq_eq] at h
  rw [target] at hfirst hlast hstride
  obtain (hends | hstarts) | ⟨⟨htwo, hstep⟩, hodd⟩ := h
  · omega
  · omega
  · rw [htwo] at hstride
    obtain htwo' | hone := hstep
    · rw [htwo'] at hstride'
      omega
    · omega

end CaseRun

/-- Code points that no run goes to: those below `a`, those of padding, and those of the two capitals
with rules of their own. -/
def reserved : List (Nat × Nat) :=
  [(0, 0x60), (0x85, 0x85), (0xA0, 0xA0), (0x130, 0x130), (0x3A3, 0x3A3), (0x1680, 0x1680),
   (0x2000, 0x205F), (0x3000, 0x3000)]

/-- Every run of the table goes to characters, and to none that is reserved. -/
theorem run_bounds : ∀ r ∈ lowerRuns,
    ((r.last : Int) + r.shift < 0xD800 ∨
      0xDFFF < (r.first : Int) + r.shift ∧ (r.last : Int) + r.shift < 0x110000) ∧
    ∀ gap ∈ reserved, (r.last : Int) + r.shift < gap.1 ∨ (gap.2 : Int) < r.first + r.shift := by
  decide +kernel

theorem run_start : ∀ r ∈ lowerRuns, 0x61 ≤ (r.first : Int) + r.shift := by
  decide +kernel

/-- The table goes nowhere that it goes on from. -/
theorem run_clear : (lowerRuns.all fun r => lowerRuns.all r.isClearOf) = true := by
  decide +kernel

/-- The table maps a code point by the run that it is in, and every other one to itself. -/
theorem mapCase_cases (n : Nat) : ∀ runs : List CaseRun,
    mapCase n runs = n ∨ ∃ r ∈ runs, r.Holds n ∧ mapCase n runs = r.target n
  | [] => .inl rfl
  | r :: rest => by
    rw [mapCase]
    split
    · exact .inl rfl
    · next hbefore =>
      split
      · next hin => exact .inr ⟨r, List.mem_cons_self, ⟨Nat.not_lt.1 hbefore, hin⟩, rfl⟩
      · obtain hsame | ⟨r', hr', himage⟩ := mapCase_cases n rest
        · exact .inl hsame
        · exact .inr ⟨r', List.mem_cons_of_mem r hr', himage⟩

theorem mapCase_eq_self {n : Nat} : ∀ {runs : List CaseRun}, (∀ r ∈ runs, ¬ r.Holds n) →
    mapCase n runs = n
  | [], _ => rfl
  | r :: rest, h => by
    rw [mapCase]
    split
    · rfl
    · next hbefore =>
      rw [if_neg fun hin => h r List.mem_cons_self ⟨Nat.not_lt.1 hbefore, hin⟩]
      exact mapCase_eq_self fun r' hr' => h r' (List.mem_cons_of_mem r hr')

/-! ## Characters -/

/-- A letter that lower case may bring in: it is none below `a` and no padding, and is in lower case
itself. -/
structure IsSmall (c : Char) : Prop where
  le_toNat : 0x61 ≤ c.toNat
  not_padding : isPadding c = false
  lowerChar_eq : lowerChar c = [c]
  ne_sigma : c ≠ 'Σ'

theorem isSmall_ofNat {n : Nat} (h : mapCase n lowerRuns = n) (hvalid : n.isValidChar)
    (hfree : ∀ gap ∈ reserved, n < gap.1 ∨ gap.2 < n) : IsSmall (Char.ofNat n) := by
  have hn : (Char.ofNat n).toNat = n := by
    rw [Char.ofNat, dif_pos hvalid]
    rfl
  have hne : ∀ c : Char, n ≠ c.toNat → Char.ofNat n ≠ c := by
    rintro c hc rfl
    exact hc hn.symm
  have hdotted : 'İ'.toNat = 0x130 := rfl
  have hsigma : 'Σ'.toNat = 0x3A3 := rfl
  simp only [reserved, List.forall_mem_cons] at hfree
  exact
    { le_toNat := by omega
      not_padding := by
        simp only [isPadding, isBlank, hn, Bool.or_eq_false_iff, Bool.and_eq_false_iff,
          decide_eq_false_iff_not, beq_eq_false_iff_ne]
        omega
      lowerChar_eq := by rw [lowerChar, if_neg (hne _ (by omega)), hn, h]
      ne_sigma := hne _ (by omega) }

/-- The letters that the rules beside the table bring in. -/
theorem isSmall_special : ∀ c ∈ ['i', '\u0307', 'ς', 'σ'], IsSmall c := by
  have hspec : ∀ n ∈ [0x69, 0x307, 0x3C2, 0x3C3], mapCase n lowerRuns = n ∧ n.isValidChar ∧
      ∀ gap ∈ reserved, n < gap.1 ∨ gap.2 < n := by
    decide +kernel
  intro c hc
  obtain ⟨n, hn, rfl⟩ : ∃ n ∈ [0x69, 0x307, 0x3C2, 0x3C3], c = Char.ofNat n := by simpa using hc
  obtain ⟨hsame, hvalid, hfree⟩ := hspec n hn
  exact isSmall_ofNat hsame hvalid hfree

/-- **A character in lower case is itself, or a small letter.** -/
theorem mem_lowerChar (h : d ∈ lowerChar c) : d = c ∧ lowerChar c = [c] ∨ IsSmall d := by
  by_cases hc : c = 'İ'
  · subst hc
    rw [lowerChar, if_pos rfl] at h
    exact .inr (isSmall_special d (List.mem_append_left ['ς', 'σ'] h))
  · rw [lowerChar, if_neg hc] at h ⊢
    rw [List.mem_singleton.1 h]
    obtain hsame | ⟨r, hr, hholds, himage⟩ := mapCase_cases c.toNat lowerRuns
    · rw [hsame, Char.ofNat_toNat]
      exact .inl ⟨rfl, rfl⟩
    · obtain ⟨hchar, hgaps⟩ := run_bounds r hr
      have ⟨hfirst, hlast, _⟩ := hholds
      have hstart := run_start r hr
      have hclear := List.all_eq_true.1 (List.all_eq_true.1 run_clear r hr)
      rw [himage]
      refine .inr (isSmall_ofNat ?_ ?_ fun gap hgap => ?_)
      · exact mapCase_eq_self fun r' hr' => CaseRun.not_holds_target (hclear r' hr') hholds
      · unfold CaseRun.target Nat.isValidChar
        omega
      · have hgap := hgaps gap hgap
        unfold CaseRun.target
        omega

theorem lowerChar_ne_nil (c : Char) : lowerChar c ≠ [] := by
  rw [lowerChar]
  split <;> exact List.cons_ne_nil _ _

/-! ## One character of a text -/

/-- What a character between `before` (nearest first) and `after` becomes. -/
def lowerAt (before : List Char) (c : Char) (after : List Char) : List Char :=
  if c = 'Σ' then [if endsWord before after then 'ς' else 'σ'] else lowerChar c

theorem lowerAfter_cons (before : List Char) (c : Char) (cs : List Char) :
    lowerAfter before (c :: cs) = lowerAt before c cs ++ lowerAfter (c :: before) cs := rfl

theorem mem_lowerAt (h : d ∈ lowerAt before c back) :
    d = c ∧ c ≠ 'Σ' ∧ lowerChar c = [c] ∨ IsSmall d := by
  rw [lowerAt] at h
  split at h
  · right
    rw [List.mem_singleton.1 h]
    split <;> exact isSmall_special _ (by decide)
  · next hsigma => exact (mem_lowerChar h).imp_left fun ⟨hd, hc⟩ => ⟨hd, hsigma, hc⟩

theorem lowerAt_ne_nil (before : List Char) (c : Char) (after : List Char) :
    lowerAt before c after ≠ [] := by
  rw [lowerAt]
  split
  · exact List.cons_ne_nil _ _
  · exact lowerChar_ne_nil c

theorem lowerAt_eq_self (hsigma : c ≠ 'Σ') (h : lowerChar c = [c]) (before after : List Char) :
    lowerAt before c after = [c] := by
  rw [lowerAt, if_neg hsigma, h]

theorem lowerAfter_eq_nil_iff : lowerAfter before cs = [] ↔ cs = [] := by
  cases cs with
  | nil => exact iff_of_true rfl rfl
  | cons c cs =>
    rw [lowerAfter_cons, List.append_eq_nil_iff]
    exact iff_of_false (fun hnil => lowerAt_ne_nil before c cs hnil.1) (List.cons_ne_nil _ _)

/-- **Only the empty text is empty in lower case.** -/
theorem lower_eq_empty_iff {s : String} : lower s = "" ↔ s = "" := by
  have hempty : s = "" ↔ s.toList = [] := String.toList_inj.symm
  rw [lower, ← String.toList_inj, String.toList_ofList, hempty]
  exact lowerAfter_eq_nil_iff

/-- A character of a text in lower case stood in the text and stays, or is a small letter. -/
theorem mem_lowerAfter : ∀ {cs before : List Char}, d ∈ lowerAfter before cs →
    d ∈ cs ∧ d ≠ 'Σ' ∧ lowerChar d = [d] ∨ IsSmall d
  | c :: cs, before, h => by
    rw [lowerAfter_cons, List.mem_append] at h
    obtain h | h := h
    · refine (mem_lowerAt h).imp_left ?_
      rintro ⟨rfl, hsigma, hd⟩
      exact ⟨List.mem_cons_self, hsigma, hd⟩
    · exact (mem_lowerAfter h).imp_left fun ⟨hmem, hd⟩ => ⟨List.mem_cons_of_mem c hmem, hd⟩

/-- **Lower case brings in letters only.** -/
theorem mem_lower {s : String} (h : d ∈ (lower s).toList) : d ∈ s.toList ∨ 0x61 ≤ d.toNat := by
  rw [lower, String.toList_ofList] at h
  exact (mem_lowerAfter h).imp And.left IsSmall.le_toNat

theorem lowerAfter_eq_self : ∀ {cs before : List Char}, (∀ c ∈ cs, c ≠ 'Σ' ∧ lowerChar c = [c]) →
    lowerAfter before cs = cs
  | [], _, _ => rfl
  | c :: cs, before, h => by
    obtain ⟨⟨hsigma, hc⟩, hcs⟩ := List.forall_mem_cons.1 h
    rw [lowerAfter_cons, lowerAt_eq_self hsigma hc, lowerAfter_eq_self hcs, List.singleton_append]

/-- **A text in lower case stays as it is.** -/
theorem lower_lower (s : String) : lower (lower s) = lower s := by
  have hsmall : ∀ c ∈ lowerAfter [] s.toList, c ≠ 'Σ' ∧ lowerChar c = [c] := fun c hc => by
    obtain ⟨-, hstays⟩ | hsmall := mem_lowerAfter hc
    · exact hstays
    · exact ⟨hsmall.ne_sigma, hsmall.lowerChar_eq⟩
  rw [lower, lower, String.toList_ofList, lowerAfter_eq_self hsmall]

/-! ## Where case starts -/

theorem startsCased_cons (c : Char) (cs : List Char) :
    startsCased (c :: cs) = if isSkipped c then startsCased cs else isCased c := by
  cases hskipped : isSkipped c <;> simp [startsCased, hskipped]

/-- **What stands before a text is seen only by whether case starts there.** -/
theorem lowerAfter_congr : ∀ {before before' : List Char} (cs : List Char),
    startsCased before = startsCased before' → lowerAfter before cs = lowerAfter before' cs
  | _, _, [], _ => rfl
  | before, before', c :: cs, h => by
    have hnext : startsCased (c :: before) = startsCased (c :: before') := by
      rw [startsCased_cons, startsCased_cons, h]
    rw [lowerAfter_cons, lowerAfter_cons, lowerAfter_congr cs hnext, lowerAt, lowerAt, endsWord,
      endsWord, h]

/-- A dot in front is skipped, so it stays in front. -/
theorem lower_dot (s : String) : lower ("." ++ s) = "." ++ lower s := by
  have hdot : startsCased ['.'] = startsCased [] := by decide +kernel
  have hone : lowerAt [] '.' s.toList = ['.'] :=
    lowerAt_eq_self (by decide) (by decide +kernel) _ _
  have hlist : ("." ++ s).toList = '.' :: s.toList := String.toList_append
  rw [← String.toList_inj, lower, lower, String.toList_ofList, hlist, lowerAfter_cons, hone,
    lowerAfter_congr _ hdot, String.toList_append, String.toList_ofList, String.toList_ofList]

/-! ## Letters of ASCII -/

/-- A letter of ASCII counts as its other case wherever characters are looked at. -/
theorem asciiLetter_spec : ∀ i : Fin 26,
    asciiLower (Char.ofNat (0x41 + i)) = Char.ofNat (0x61 + i) ∧
    lowerChar (Char.ofNat (0x61 + i)) = lowerChar (Char.ofNat (0x41 + i)) ∧
    isSkipped (Char.ofNat (0x61 + i)) = isSkipped (Char.ofNat (0x41 + i)) ∧
    isCased (Char.ofNat (0x61 + i)) = isCased (Char.ofNat (0x41 + i)) ∧
    isPadding (Char.ofNat (0x61 + i)) = isPadding (Char.ofNat (0x41 + i)) ∧
    Char.ofNat (0x61 + i) ≠ 'Σ' ∧ Char.ofNat (0x41 + i) ≠ 'Σ' := by
  decide +kernel

theorem asciiLower_spec (c : Char) : lowerChar (asciiLower c) = lowerChar c ∧
    isSkipped (asciiLower c) = isSkipped c ∧ isCased (asciiLower c) = isCased c ∧
    isPadding (asciiLower c) = isPadding c ∧ (asciiLower c = 'Σ' ↔ c = 'Σ') := by
  by_cases hc : 0x41 ≤ c.toNat ∧ c.toNat ≤ 0x5A
  · obtain ⟨i, hi⟩ : ∃ i : Fin 26, c = Char.ofNat (0x41 + i) :=
      ⟨⟨c.toNat - 0x41, by omega⟩, by
        dsimp only
        rw [Nat.add_sub_cancel' hc.1, Char.ofNat_toNat]⟩
    obtain ⟨hlower, hchar, hskipped, hcased, hpadding, hsigma, hsigma'⟩ := asciiLetter_spec i
    rw [hi, hlower]
    exact ⟨hchar, hskipped, hcased, hpadding, iff_of_false hsigma hsigma'⟩
  · rw [asciiLower, if_neg hc]
    exact ⟨rfl, rfl, rfl, rfl, Iff.rfl⟩

theorem startsCased_map_asciiLower : ∀ cs : List Char,
    startsCased (cs.map asciiLower) = startsCased cs
  | [] => rfl
  | c :: cs => by
    obtain ⟨-, hskipped, hcased, -, -⟩ := asciiLower_spec c
    rw [List.map_cons, startsCased_cons, startsCased_cons, hskipped, hcased,
      startsCased_map_asciiLower cs]

theorem lowerAfter_map_asciiLower : ∀ (cs before : List Char),
    lowerAfter before (cs.map asciiLower) = lowerAfter before cs
  | [], _ => rfl
  | c :: cs, before => by
    obtain ⟨hchar, hskipped, hcased, -, hsigma⟩ := asciiLower_spec c
    have hone : lowerAt before (asciiLower c) (cs.map asciiLower) = lowerAt before c cs := by
      rw [lowerAt, lowerAt, endsWord, endsWord, startsCased_map_asciiLower, hchar]
      exact if_congr hsigma rfl rfl
    have hnext : startsCased (asciiLower c :: before) = startsCased (c :: before) := by
      rw [startsCased_cons, startsCased_cons, hskipped, hcased]
    rw [List.map_cons, lowerAfter_cons, lowerAfter_cons, hone, lowerAfter_map_asciiLower cs,
      lowerAfter_congr cs hnext]

/-! ## Padding -/

/-- Padding is in lower case, and there is no case in it. -/
theorem padding_spec (h : isPadding c = true) :
    isSkipped c = false ∧ isCased c = false ∧ c ≠ 'Σ' ∧ lowerChar c = [c] := by
  have hspec : ∀ n ∈ [0x09, 0x0A, 0x0B, 0x0C, 0x0D, 0x1C, 0x1D, 0x1E, 0x1F, 0x20, 0x85, 0xA0, 0x1680,
      0x2000, 0x2001, 0x2002, 0x2003, 0x2004, 0x2005, 0x2006, 0x2007, 0x2008, 0x2009, 0x200A, 0x2028,
      0x2029, 0x202F, 0x205F, 0x3000], isSkipped (Char.ofNat n) = false ∧
        isCased (Char.ofNat n) = false ∧ Char.ofNat n ≠ 'Σ' ∧
        lowerChar (Char.ofNat n) = [Char.ofNat n] := by
    decide +kernel
  have hn := hspec c.toNat
  rw [Char.ofNat_toNat] at hn
  apply hn
  simp only [isPadding, isBlank, Bool.or_eq_true, Bool.and_eq_true, decide_eq_true_eq,
    beq_iff_eq] at h
  simp only [List.mem_cons, List.not_mem_nil, or_false]
  omega

theorem startsCased_padding (h : isPadding c = true) (cs : List Char) :
    startsCased (c :: cs) = false := by
  obtain ⟨hskipped, hcased, -, -⟩ := padding_spec h
  rw [startsCased_cons, hskipped, hcased]
  rfl

/-- Padding behind a text is not seen, -/
theorem startsCased_append (hback : ∀ c ∈ back, isPadding c = true) : ∀ cs : List Char,
    startsCased (cs ++ back) = startsCased cs
  | [] => by
    cases back with
    | nil => rfl
    | cons c back => exact startsCased_padding (hback c List.mem_cons_self) back
  | c :: cs => by
    rw [List.cons_append, startsCased_cons, startsCased_cons, startsCased_append hback cs]

theorem lowerAfter_append (hback : ∀ c ∈ back, isPadding c = true) : ∀ cs before : List Char,
    lowerAfter before (cs ++ back) = lowerAfter before cs ++ back
  | [], _ => lowerAfter_eq_self fun c hc => (padding_spec (hback c hc)).2.2
  | c :: cs, before => by
    rw [List.cons_append, lowerAfter_cons, lowerAfter_cons, lowerAfter_append hback cs, lowerAt,
      lowerAt, endsWord, endsWord, startsCased_append hback, List.append_assoc]

/-- and neither is padding in front of it. -/
theorem lowerAfter_padding : ∀ {front before : List Char}, (∀ c ∈ front, isPadding c = true) →
    startsCased before = false → ∀ cs : List Char,
      lowerAfter before (front ++ cs) = front ++ lowerAfter before cs
  | [], _, _, _, _ => rfl
  | c :: front, before, hfront, hbefore, cs => by
    obtain ⟨hc, hfront⟩ := List.forall_mem_cons.1 hfront
    obtain ⟨-, -, hsigma, hsame⟩ := padding_spec hc
    have hnext := startsCased_padding hc before
    rw [List.cons_append, lowerAfter_cons, lowerAt_eq_self hsigma hsame,
      lowerAfter_padding hfront hnext, lowerAfter_congr cs (hnext.trans hbefore.symm),
      List.singleton_append, List.cons_append]

theorem not_padding_of_mem_lowerAt (hc : isPadding c = false) (h : d ∈ lowerAt before c back) :
    isPadding d = false := by
  obtain ⟨rfl, -⟩ | hsmall := mem_lowerAt h
  · exact hc
  · exact hsmall.not_padding

theorem not_padding_of_getLast?_lowerAfter : ∀ {cs before : List Char},
    (∀ c ∈ cs.getLast?, isPadding c = false) →
      ∀ d ∈ (lowerAfter before cs).getLast?, isPadding d = false
  | [], _, _, _, hd => nomatch hd
  | [c], before, hlast, d, hd => by
    rw [lowerAfter_cons, lowerAfter_nil, List.append_nil] at hd
    exact not_padding_of_mem_lowerAt (hlast c rfl) (List.mem_of_mem_getLast? hd)
  | c :: c' :: cs, before, hlast, d, hd => by
    have hne : lowerAfter (c :: before) (c' :: cs) ≠ [] := fun hnil =>
      List.cons_ne_nil c' cs (lowerAfter_eq_nil_iff.1 hnil)
    rw [lowerAfter_cons, List.getLast?_append_of_ne_nil _ hne] at hd
    exact not_padding_of_getLast?_lowerAfter (by rwa [List.getLast?_cons_cons] at hlast) d hd

/-- A text without padding at its ends has none in lower case. -/
theorem EdgesFree.lowerAfter (h : EdgesFree isPadding cs) (before : List Char) :
    EdgesFree isPadding (lowerAfter before cs) := by
  refine ⟨fun d hd => ?_, not_padding_of_getLast?_lowerAfter h.2⟩
  cases cs with
  | nil => cases hd
  | cons c cs =>
    rw [lowerAfter_cons, List.head?_append_of_ne_nil _ (lowerAt_ne_nil before c cs)] at hd
    exact not_padding_of_mem_lowerAt (h.1 c rfl) (List.mem_of_mem_head? hd)

/-- **A text is trimmed before it is put in lower case, or after.** -/
theorem trim_lower (s : String) : trim (lower s) = lower (trim s) := by
  obtain ⟨front, back, hfront, hback, hparts⟩ := exists_eq_strip isPadding s.toList
  have hcore := ((edgesFree_strip isPadding s.toList).lowerAfter []).strip_eq
  have hlower : Text.lowerAfter [] s.toList =
      front ++ Text.lowerAfter [] (strip isPadding s.toList) ++ back := by
    rw [← lowerAfter_padding hfront rfl, ← lowerAfter_append hback, ← hparts]
  rw [trim, lower, lower, String.toList_ofList, toList_trim, hlower, strip_padded hfront hback, hcore]

end ArchiveCensus.Text
