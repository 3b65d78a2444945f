import Mathlib.Data.List.Sort
import ArchiveCensus.Proofs.Census.Report

/-!
# Proofs/Census/Leaders — rankings do not depend on the order of what is ranked

A ranking settles its ties, so the same items are ranked alike in whatever order they come.

* `Ranking.mergeSort_eq_of_perm` — sorting forgets the order of the items.
* `Ranking.leading_eq_of_perm`, `Ranking.leadingFormats_eq_of_perm` — so do the first rows of a
  tally.
* `Ranking.Splits` — the leaders of a run are ranked, and nothing that was dropped comes before
  them; `Ranking.Splits.push` is the step and `Ranking.Splits.exists_foldl_push` the run.
* `Ranking.Splits.eq_of_perm` — so the leaders of two runs over the same items are the same.
-/

namespace ArchiveCensus

namespace Ranking

variable {α : Type}

/-! ## Orders -/

/-- An order that compares any two items, where some may tie. -/
structure Orders (le : α → α → Bool) : Prop where
  trans : ∀ a b c, le a b = true → le b c = true → le a c = true
  total : ∀ a b, (le a b || le b a) = true

theorem orders_upTo : Orders Text.upTo where
  trans a b c hab hbc := by
    simp only [Text.upTo, Bool.not_eq_true', decide_eq_false_iff_not, String.not_lt] at *
    exact String.le_trans hab hbc
  total a b := by
    simp only [Text.upTo, Bool.or_eq_true, Bool.not_eq_true', decide_eq_false_iff_not,
      String.not_lt]
    exact String.le_total a b

theorem upTo_antisymm {a b : String} (hab : Text.upTo a b = true) (hba : Text.upTo b a = true) :
    a = b := by
  simp only [Text.upTo, Bool.not_eq_true', decide_eq_false_iff_not, String.not_lt] at hab hba
  exact String.le_antisymm hab hba

/-- An order by a text of the items is one. -/
theorem orders_byText (text : α → String) : Orders (byText text) where
  trans a b c := orders_upTo.trans (text a) (text b) (text c)
  total a b := orders_upTo.total (text a) (text b)

/-- An order by size is one, if it settles ties by one. -/
theorem orders_largestFirst {size : α → Int} {tie : α → α → Bool} (h : Orders tie) :
    Orders (largestFirst size tie) where
  trans a b c hab hbc := by
    have htie := h.trans a b c
    grind [largestFirst]
  total a b := by
    have htie := h.total a b
    grind [largestFirst]

/-- What comes before another by size and the other way around has its size, and ties with it. -/
theorem ties_of_largestFirst {size : α → Int} {tie : α → α → Bool} {a b : α}
    (hab : largestFirst size tie a b = true) (hba : largestFirst size tie b a = true) :
    size a = size b ∧ tie a b = true ∧ tie b a = true := by
  grind [largestFirst]

/-- The order by a text of the items, where equal texts are settled by another order. -/
def textThen (text : α → String) (next : α → α → Bool) (a b : α) : Bool :=
  if text a ≠ text b then Text.upTo (text a) (text b) else next a b

theorem orders_textThen {text : α → String} {next : α → α → Bool} (h : Orders next) :
    Orders (textThen text next) where
  trans a b c := by
    have hnext := h.trans a b c
    have htext := orders_upTo.trans (text a) (text b) (text c)
    have hanti := @upTo_antisymm (text a) (text b)
    grind [textThen]
  total a b := by
    have hnext := h.total a b
    have htext := orders_upTo.total (text a) (text b)
    grind [textThen]

/-- What comes before another by such an order and the other way around has its text, and ties
with it. -/
theorem ties_of_textThen {text : α → String} {next : α → α → Bool} {a b : α}
    (hab : textThen text next a b = true) (hba : textThen text next b a = true) :
    text a = text b ∧ next a b = true ∧ next b a = true := by
  have hanti := @upTo_antisymm (text a) (text b)
  grind [textThen]

/-- Formats are ordered by one text after another. -/
theorem byFormat_eq : byFormat =
    textThen Format.registryKey (textThen Format.name (byText Format.version)) := rfl

theorem orders_byFormat : Orders byFormat := by
  rw [byFormat_eq]
  exact orders_textThen (orders_textThen (orders_byText Format.version))

theorem byFormat_antisymm {a b : Format} (hab : byFormat a b = true) (hba : byFormat b a = true) :
    a = b := by
  rw [byFormat_eq] at hab hba
  obtain ⟨hkey, hab, hba⟩ := ties_of_textThen hab hba
  obtain ⟨hname, hab, hba⟩ := ties_of_textThen hab hba
  have hversion : a.version = b.version := upTo_antisymm hab hba
  cases a
  cases b
  simp_all

/-- **Sorting forgets the order of the items**, if no two of them tie. -/
theorem mergeSort_eq_of_perm {le : α → α → Bool} (hle : Orders le)
    (hanti : ∀ a b, le a b = true → le b a = true → a = b) {items items' : List α}
    (h : items.Perm items') : items.mergeSort le = items'.mergeSort le :=
  List.Perm.eq_of_pairwise (fun a b _ _ => hanti a b)
    (List.pairwise_mergeSort hle.trans hle.total items)
    (List.pairwise_mergeSort hle.trans hle.total items')
    ((List.mergeSort_perm items le).trans (h.trans (List.mergeSort_perm items' le).symm))

/-- Different items are sorted strictly, if items in order that differ are strictly so. -/
theorem pairwise_mergeSort_of_nodup {le : α → α → Bool} {lt : α → α → Prop} (hle : Orders le)
    (hstrict : ∀ a b, le a b = true → a ≠ b → lt a b) {items : List α} (h : items.Nodup) :
    (items.mergeSort le).Pairwise lt :=
  have horder := List.pairwise_mergeSort hle.trans hle.total items
  have hdiffer := (List.mergeSort_perm items le).nodup_iff.2 h
  (horder.and hdiffer).imp fun hboth => hstrict _ _ hboth.1 hboth.2

/-! ## The first rows of a tally -/

theorem orders_byCount : Orders byCount := orders_largestFirst (orders_byText Row.key)

theorem byCount_antisymm {a b : Row} (hab : byCount a b = true) (hba : byCount b a = true) :
    a = b := by
  obtain ⟨hcount, hab, hba⟩ := ties_of_largestFirst hab hba
  have hkey : a.key = b.key := upTo_antisymm hab hba
  cases a
  cases b
  simp_all

theorem byFormatRow_antisymm {a b : FormatRow} (hab : byFormatRow a b = true)
    (hba : byFormatRow b a = true) : a = b := by
  obtain ⟨hcount, hab, hba⟩ := ties_of_largestFirst hab hba
  have hformat : a.format = b.format := byFormat_antisymm hab hba
  cases a
  cases b
  simp_all

/-- **The first rows of a tally do not depend on the order in which its texts came.** -/
theorem leading_eq_of_perm {t t' : Tally} (h : t.Perm t') (limit : Int) :
    leading limit t = leading limit t' := by
  rw [leading, leading,
    mergeSort_eq_of_perm orders_byCount (fun _ _ => byCount_antisymm) (h.map _)]

/-- The order of the rows of a tally of formats compares any two of them. -/
theorem orders_byFormatRow : Orders byFormatRow :=
  orders_largestFirst
    { trans := fun a b c => orders_byFormat.trans a.format b.format c.format
      total := fun a b => orders_byFormat.total a.format b.format }

/-- **Nor do the first rows of a tally of formats.** -/
theorem leadingFormats_eq_of_perm {t t' : Tally} (h : t.Perm t') (limit : Int) {separator : String}
    (hseparator : separator.toList ≠ []) :
    leadingFormats limit separator t = leadingFormats limit separator t' := by
  obtain ⟨rows, hrows⟩ := exists_leadingFormats limit separator hseparator t
  obtain ⟨all, hall, -⟩ := Outcome.bind_eq_ok_iff.1 hrows
  obtain ⟨all', hall', hperm⟩ := Outcome.exists_mapM_perm h hall
  rw [leadingFormats, leadingFormats, hall, hall', Outcome.ok_bind, Outcome.ok_bind,
    mergeSort_eq_of_perm orders_byFormatRow (fun _ _ => byFormatRow_antisymm) hperm]

/-! ## The place of an item -/

variable {before : α → α → Bool} {item : α} {xs : List α}

/-- What doubling steps find: the item comes before what stands at the end of the part, and does not
come before what precedes the part. -/
theorem before_stretch (before : α → α → Bool) (item : α) (xs : List α) (low probe : Nat)
    (hlow : 0 < low → xs[low - 1]?.any (before item) = false) :
    ((stretch before item xs low probe).2 < xs.length →
      xs[(stretch before item xs low probe).2]?.any (before item) = true) ∧
    (0 < (stretch before item xs low probe).1 →
      xs[(stretch before item xs low probe).1 - 1]?.any (before item) = false) := by
  fun_induction stretch before item xs low probe with
  | case1 low probe hlt hitem => exact ⟨fun _ => by simpa [hlt] using hitem, hlow⟩
  | case2 low probe hlt hitem ih =>
      exact ih fun _ => by simpa [hlt] using hitem
  | case3 low probe hlt => exact ⟨fun hless => absurd hless (Nat.lt_irrefl _), hlow⟩

/-- **The place of an item**: it comes before what stands there, and not before what precedes it. -/
theorem before_position (before : α → α → Bool) (item : α) (xs : List α) :
    (position before item xs < xs.length →
      xs[position before item xs]?.any (before item) = true) ∧
    (0 < position before item xs →
      xs[position before item xs - 1]?.any (before item) = false) := by
  rw [position]
  split
  · -- the part that is halved has the item's place in it
    obtain ⟨low, high, hpart, hle, hhigh, hlow⟩ : ∃ low high,
        (if xs.length < longLength then (0, xs.length) else stretch before item xs 0 0) =
          (low, high) ∧ low ≤ high ∧
        (high < xs.length → xs[high]?.any (before item) = true) ∧
        (0 < low → xs[low - 1]?.any (before item) = false) := by
      split
      · exact ⟨0, xs.length, rfl, Nat.zero_le _, fun hless => absurd hless (Nat.lt_irrefl _),
          fun hpos => absurd hpos (Nat.lt_irrefl 0)⟩
      · obtain ⟨hhigh, hlow⟩ :=
          before_stretch before item xs 0 0 fun hpos => absurd hpos (Nat.lt_irrefl 0)
        exact ⟨_, _, rfl, (stretch_bounds before item xs 0 0 (Nat.le_refl _) (Nat.zero_le _)).1,
          hhigh, hlow⟩
    rw [hpart]
    obtain ⟨hlow', hhigh'⟩ := place_bounds before item xs low high hle
    obtain ⟨hfound, hpast⟩ := before_place before item xs low high hle
    constructor
    · intro hless
      obtain hin | hend := Nat.lt_or_eq_of_le hhigh'
      · exact hfound hin
      · simp only [hend] at hless ⊢
        exact hhigh hless
    · intro hpos
      obtain hin | hend := Nat.lt_or_eq_of_le hlow'
      · exact hpast hin
      · simp only [← hend] at hpos ⊢
        exact hlow hpos
  · next hlast =>
    refine ⟨fun hless => absurd hless (Nat.lt_irrefl _), fun _ => ?_⟩
    rw [← List.getLast?_eq_getElem?]
    exact eq_false_of_ne_true hlast

/-- A strict order, where items that are not before each other tie. -/
structure Ranks (before : α → α → Bool) : Prop where
  asymm : ∀ a b, before a b = true → before b a = false
  trans : ∀ a b c, before b a = false → before c b = false → before c a = false

theorem Ranks.irrefl (h : Ranks before) (a : α) : before a a = false := by
  cases haa : before a a with
  | false => rfl
  | true => exact haa ▸ h.asymm a a haa

/-- A list is ranked if no item comes before one that precedes it. -/
def Ranked (before : α → α → Bool) (xs : List α) : Prop :=
  xs.Pairwise fun a b => before b a = false

/-- The item does not come before what precedes its place, -/
theorem not_before_of_mem_take (h : Ranks before) (hxs : Ranked before xs) {a : α}
    (ha : a ∈ xs.take (position before item xs)) : before item a = false := by
  obtain ⟨i, hi, rfl⟩ := List.mem_take_iff_getElem.1 ha
  have hpos := position_le before item xs
  have hless : position before item xs - 1 < xs.length := by omega
  have hlast : before item xs[position before item xs - 1] = false := by
    have hnot := (before_position before item xs).2 (by omega)
    rwa [List.getElem?_eq_getElem hless, Option.any_some] at hnot
  obtain hearlier | heq := Nat.lt_or_eq_of_le (show i ≤ position before item xs - 1 by omega)
  · exact h.trans _ _ _ (List.pairwise_iff_getElem.1 hxs _ _ _ _ hearlier) hlast
  · simpa only [heq] using hlast

/-- and it comes before everything from there on, -/
theorem before_of_mem_drop (h : Ranks before) (hxs : Ranked before xs) {b : α}
    (hb : b ∈ xs.drop (position before item xs)) : before item b = true := by
  obtain ⟨i, hi, rfl⟩ := List.mem_drop_iff_getElem.1 hb
  have hless : position before item xs < xs.length := by omega
  have hfirst : before item xs[position before item xs] = true := by
    have hin := (before_position before item xs).1 hless
    rwa [List.getElem?_eq_getElem hless, Option.any_some] at hin
  obtain hzero | hpos := Nat.eq_zero_or_pos i
  · simpa only [hzero, Nat.add_zero] using hfirst
  · have hnot := List.pairwise_iff_getElem.1 hxs (position before item xs)
      (position before item xs + i) hless (by omega) (by omega)
    refine eq_true_of_ne_false fun hbefore => ?_
    rw [h.trans _ _ _ hnot hbefore] at hfirst
    cases hfirst

/-- which does not come before the item. -/
theorem not_before_of_mem_drop (h : Ranks before) (hxs : Ranked before xs) {b : α}
    (hb : b ∈ xs.drop (position before item xs)) : before b item = false :=
  h.asymm _ _ (before_of_mem_drop h hxs hb)

/-- **An item put in its place leaves a list ranked.** -/
theorem Ranked.insert (h : Ranks before) (hxs : Ranked before xs) (item : α) :
    Ranked before (Ranking.insert before item xs) := by
  rw [Ranking.insert, Ranked, List.pairwise_append, List.pairwise_cons]
  refine ⟨hxs.sublist (List.take_sublist _ _),
    ⟨fun b hb => not_before_of_mem_drop h hxs hb, hxs.sublist (List.drop_sublist _ _)⟩, ?_⟩
  intro a ha b hb
  obtain rfl | hdrop := List.mem_cons.1 hb
  · exact not_before_of_mem_take h hxs ha
  · rw [Ranked, ← List.take_append_drop (position before item xs) xs,
      List.pairwise_append] at hxs
    exact hxs.2.2 a ha b hdrop

/-! ## The leaders of a run -/

/-- The items of a run are split into its leaders and the rest: the leaders are ranked, nothing of
the rest comes before them, and there is a rest only where they are at their capacity. -/
structure Splits (before : α → α → Bool) (capacity : Nat) (leaders rest items : List α) :
    Prop where
  perm : (leaders ++ rest).Perm items
  ranked : Ranked before leaders
  ahead : ∀ a ∈ leaders, ∀ b ∈ rest, before b a = false
  length_le : leaders.length ≤ capacity
  full : rest = [] ∨ leaders.length = capacity

theorem splits_nil (before : α → α → Bool) (capacity : Nat) : Splits before capacity [] [] [] where
  perm := .refl _
  ranked := .nil
  ahead _ ha := nomatch ha
  length_le := Nat.zero_le _
  full := .inl rfl

namespace Splits

variable {capacity : Int} {leaders rest items : List α}

/-- What is dropped for an item is not before the leaders that stay, -/
theorem ahead_push (h : Ranks before) (hs : Splits before capacity.toNat leaders rest items)
    {a b : α} (ha : a ∈ push capacity before leaders item)
    (hb : b ∈ (insert before item leaders).drop capacity.toNat ++ rest) : before b a = false := by
  have hranked := hs.ranked.insert h item
  rw [Ranked, ← List.take_append_drop capacity.toNat (insert before item leaders),
    List.pairwise_append] at hranked
  obtain hdropped | hrest := List.mem_append.1 hb
  · exact hranked.2.2 a ha b hdropped
  · have hlength : leaders.length = capacity.toNat :=
      hs.full.resolve_left (List.ne_nil_of_mem hrest)
    have hperm := insert_perm before item leaders
    obtain ⟨d, hd⟩ : ∃ d, (insert before item leaders).drop capacity.toNat = [d] := by
      rw [← List.length_eq_one_iff, List.length_drop, hperm.length_eq, List.length_cons, hlength,
        Nat.add_sub_cancel_left]
    -- the leaders were at their capacity, so one item is dropped: an old leader or the new item
    have hkept : (Ranking.push capacity before leaders item ++ [d]).Perm (item :: leaders) := by
      rwa [Ranking.push, ← hd, List.take_append_drop]
    obtain rfl | hold := List.mem_cons.1 (hkept.mem_iff.1 (List.mem_append_right _ (.head [])))
    · have hstay : a ∈ leaders :=
        (((List.perm_append_singleton d _).symm.trans hkept).cons_inv).mem_iff.1 ha
      exact hs.ahead a hstay b hrest
    · refine h.trans a d b (hranked.2.2 a ha d ?_) (hs.ahead d hold b hrest)
      rw [hd]
      exact .head []

/-- **One more item leaves the leaders ahead of the rest.** -/
theorem push (h : Ranks before) (hs : Splits before capacity.toNat leaders rest items) (item : α) :
    Splits before capacity.toNat (Ranking.push capacity before leaders item)
      ((insert before item leaders).drop capacity.toNat ++ rest) (items ++ [item]) where
  perm := by
    rw [Ranking.push, ← List.append_assoc, List.take_append_drop]
    calc insert before item leaders ++ rest
        |>.Perm ((item :: leaders) ++ rest) := (insert_perm before item leaders).append_right rest
      _ |>.Perm (item :: items) := hs.perm.cons item
      _ |>.Perm (items ++ [item]) := (List.perm_append_singleton item items).symm
  ranked := (hs.ranked.insert h item).sublist (List.take_sublist _ _)
  ahead a ha b hb := hs.ahead_push h ha hb
  length_le := length_push_le capacity before leaders item
  full := by
    have hlength := (insert_perm before item leaders).length_eq
    rw [List.length_cons] at hlength
    rw [Ranking.push, List.length_take, List.append_eq_nil_iff, List.drop_eq_nil_iff, hlength]
    obtain hnone | hfull := hs.full
    · by_cases hroom : leaders.length + 1 ≤ capacity.toNat
      · exact .inl ⟨hroom, hnone⟩
      · exact .inr (by omega)
    · exact .inr (by omega)

/-- So a run of items leaves its leaders ahead of the rest. -/
theorem exists_foldl_push (h : Ranks before) : ∀ (pushed : List α) {leaders rest items : List α},
    Splits before capacity.toNat leaders rest items →
      ∃ rest', Splits before capacity.toNat (pushed.foldl (Ranking.push capacity before) leaders)
        rest' (items ++ pushed)
  | [], _, rest, _, hs => ⟨rest, by rwa [List.append_nil]⟩
  | item :: pushed, _, _, _, hs => by
    rw [List.foldl_cons, List.append_cons]
    exact exists_foldl_push h pushed (hs.push h item)

/-- The leaders are the start of a ranking of all items. -/
theorem exists_ranked (h : Ranks before) {capacity : Nat}
    (hs : Splits before capacity leaders rest items) :
    ∃ all, all.Perm items ∧ Ranked before all ∧ leaders = all.take capacity := by
  let le : α → α → Bool := fun a b => !before b a
  have hsort : Ranked before (rest.mergeSort le) := by
    have hle : Orders le :=
      { trans := fun a b c hab hbc => by
          simpa [le] using h.trans a b c (by simpa [le] using hab) (by simpa [le] using hbc)
        total := fun a b => by
          cases hba : before b a
          · simp [le, hba]
          · simp [le, h.asymm b a hba] }
    exact (List.pairwise_mergeSort hle.trans hle.total rest).imp fun hab => by simpa [le] using hab
  refine ⟨leaders ++ rest.mergeSort le, ?_, ?_, ?_⟩
  · exact ((List.mergeSort_perm rest le).append_left leaders).trans hs.perm
  · exact List.pairwise_append.2 ⟨hs.ranked, hsort,
      fun a ha b hb => hs.ahead a ha b (List.mem_mergeSort.1 hb)⟩
  · obtain rfl | hfull := hs.full
    · rw [List.mergeSort_nil, List.append_nil, List.take_of_length_le hs.length_le]
    · rw [← hfull, List.take_left]

/-- **The leaders do not depend on the order of the items**, if items that tie are the same. -/
theorem eq_of_perm (h : Ranks before) {capacity : Nat} {leaders' rest' items' : List α}
    (hs : Splits before capacity leaders rest items)
    (hs' : Splits before capacity leaders' rest' items') (hperm : items.Perm items')
    (hties : ∀ a ∈ items, ∀ b ∈ items, before a b = false → before b a = false → a = b) :
    leaders = leaders' := by
  obtain ⟨all, hall, hranked, rfl⟩ := hs.exists_ranked h
  obtain ⟨all', hall', hranked', rfl⟩ := hs'.exists_ranked h
  have heq : all = all' := List.Perm.eq_of_pairwise
    (fun a b ha hb hba hab => hties a (hall.mem_iff.1 ha) b
      (hperm.mem_iff.2 (hall'.mem_iff.1 hb)) hab hba)
    hranked hranked' (hall.trans (hperm.trans hall'.symm))
  rw [heq]

end Splits

end Ranking

end ArchiveCensus
