import Mathlib.Data.Prod.Lex
import Mathlib.Data.String.Basic
import ArchiveCensus.Proofs.Census.Shuffle

/-!
# Proofs/Census/Stable — the leaders of a run are the start of its stable sort

An item is put behind those that it ties with, so a ranked list with one more item is the stable
sort of the run with one more item.  What the capacity cuts off never comes back: an item put into
the start of a ranking moves nothing of the rest ahead.  So nothing is lost by cutting off at every
step, and the leaders are the start of the stable sort of all items.

* `Ranking.eq_of_filter_ties` — a stable sort is determined by what ties with each item.
* `Ranking.insert_mergeSort`, `Ranking.push_take` — the two steps: one more item in the sort, and
  one more item in its start.
* `Ranking.foldl_push_eq_take` — a run.
* `Sample.foldl_keep_eq_take` — the largest files are the start of the sort by size and path.
-/

namespace ArchiveCensus

namespace Ranking

variable {α : Type} {before : α → α → Bool} {xs ys : List α} {item : α}

/-! ## The place of an item -/

/-- The place of an item is the number of those that the item does not come before. -/
theorem position_eq_countP (h : Ranks before) (hxs : Ranked before xs) :
    position before item xs = xs.countP fun b => !before item b := by
  have htake : (xs.take (position before item xs)).countP (fun b => !before item b) =
      (xs.take (position before item xs)).length :=
    List.countP_eq_length.2 fun b hb => by rw [not_before_of_mem_take h hxs hb, Bool.not_false]
  have hdrop : (xs.drop (position before item xs)).countP (fun b => !before item b) = 0 :=
    List.countP_eq_zero.2 fun b hb => by simp only [before_of_mem_drop h hxs hb]; decide
  conv => rhs; rw [← List.take_append_drop (position before item xs) xs]
  rw [List.countP_append, htake, hdrop, List.length_take, Nat.add_zero,
    Nat.min_eq_left (position_le before item xs)]

/-- An item is put between what it does not come before and what it comes before. -/
theorem insert_append (h : Ranks before) (hranked : Ranked before (xs ++ ys))
    (hxs : ∀ b ∈ xs, before item b = false) (hys : ∀ b ∈ ys, before item b = true) :
    insert before item (xs ++ ys) = xs ++ item :: ys := by
  have hplace : position before item (xs ++ ys) = xs.length := by
    rw [position_eq_countP h hranked, List.countP_append,
      List.countP_eq_length.2 fun b hb => by rw [hxs b hb, Bool.not_false],
      List.countP_eq_zero.2 fun b hb => by simp only [hys b hb]; decide, Nat.add_zero]
  rw [insert, hplace, List.take_left, List.drop_left]

/-- A ranked list is what an item does not come before, and then what it comes before. -/
theorem exists_parts (h : Ranks before) (hxs : Ranked before xs) (item : α) : ∃ low high,
    xs = low ++ high ∧ (∀ b ∈ low, before item b = false) ∧ (∀ b ∈ high, before item b = true) :=
  ⟨_, _, (List.take_append_drop (position before item xs) xs).symm,
    fun _ hb => not_before_of_mem_take h hxs hb, fun _ hb => before_of_mem_drop h hxs hb⟩

/-! ## What ties -/

/-- Neither item comes before the other. -/
def ties (before : α → α → Bool) (a b : α) : Bool := !before a b && !before b a

theorem ties_iff {a b : α} : ties before a b = true ↔ before a b = false ∧ before b a = false := by
  rw [ties, Bool.and_eq_true, Bool.not_eq_true', Bool.not_eq_true']

/-- **An item is put behind those that it ties with.** -/
theorem filter_ties_insert (h : Ranks before) (hxs : Ranked before xs) (a item : α) :
    (insert before item xs).filter (ties before a) = (xs ++ [item]).filter (ties before a) := by
  obtain ⟨low, high, rfl, hlow, hhigh⟩ := exists_parts h hxs item
  rw [insert_append h hxs hlow hhigh, List.append_assoc, List.filter_append, List.filter_append,
    List.filter_append, List.filter_cons]
  congr 1
  by_cases hitem : ties before a item = true
  · -- what ties with such an item is not behind it
    have hnone : high.filter (ties before a) = [] := by
      rw [List.filter_eq_nil_iff]
      intro b hb hties
      have hbefore := h.trans _ _ _ (ties_iff.1 hties).1 (ties_iff.1 hitem).2
      rw [hhigh b hb] at hbefore
      cases hbefore
    rw [if_pos hitem, hnone, List.nil_append, List.filter_cons_of_pos hitem]
    rfl
  · rw [if_neg hitem, List.filter_cons_of_neg hitem, List.filter_nil, List.append_nil]

theorem ties_self (h : Ranks before) (a : α) : ties before a a = true :=
  ties_iff.2 ⟨h.irrefl a, h.irrefl a⟩

/-- Lists where the same ties with each item have the same items, -/
theorem mem_of_filter_ties (h : Ranks before)
    (hall : ∀ a, xs.filter (ties before a) = ys.filter (ties before a)) {a : α} (ha : a ∈ xs) :
    a ∈ ys := by
  have hin : a ∈ xs.filter (ties before a) := List.mem_filter.2 ⟨ha, ties_self h a⟩
  rw [hall] at hin
  exact (List.mem_filter.1 hin).1

/-- a ranked list has no item that comes before its first one, -/
theorem Ranked.not_before_head {x : α} (h : Ranks before) (hxs : Ranked before (x :: xs)) {a : α}
    (ha : a ∈ x :: xs) : before a x = false := by
  obtain rfl | hrest := List.mem_cons.1 ha
  · exact h.irrefl a
  · exact (List.pairwise_cons.1 hxs).1 a hrest

/-- **and so a ranked list is determined by what ties with each item.** -/
theorem eq_of_filter_ties (h : Ranks before) : ∀ {xs ys : List α}, Ranked before xs →
    Ranked before ys → (∀ a, xs.filter (ties before a) = ys.filter (ties before a)) → xs = ys
  | [], ys, _, _, hall =>
    (List.eq_nil_iff_forall_not_mem.2 fun _ hy =>
      List.not_mem_nil (mem_of_filter_ties h (fun a => (hall a).symm) hy)).symm
  | x :: xs, [], _, _, hall => nomatch mem_of_filter_ties h hall (List.mem_cons_self (l := xs))
  | x :: xs, y :: ys, hxs, hys, hall => by
    have hx := hys.not_before_head h (mem_of_filter_ties h hall List.mem_cons_self)
    have hy := hxs.not_before_head h
      (mem_of_filter_ties h (fun a => (hall a).symm) List.mem_cons_self)
    have hfirst := hall x
    rw [List.filter_cons_of_pos (ties_self h x), List.filter_cons_of_pos (ties_iff.2 ⟨hx, hy⟩)]
      at hfirst
    obtain rfl : x = y := (List.cons.inj hfirst).1
    have hrest : ∀ a, xs.filter (ties before a) = ys.filter (ties before a) := fun a => by
      have hboth := hall a
      rw [List.filter_cons, List.filter_cons] at hboth
      split at hboth
      · exact (List.cons.inj hboth).2
      · exact hboth
    rw [eq_of_filter_ties h (List.pairwise_cons.1 hxs).2 (List.pairwise_cons.1 hys).2 hrest]

/-! ## The stable sort -/

/-- The stable sort of some items. -/
def sorted (before : α → α → Bool) (items : List α) : List α :=
  items.mergeSort fun a b => !before b a

theorem Ranks.orders (h : Ranks before) : Orders fun a b => !before b a where
  trans a b c hab hbc := by
    rw [Bool.not_eq_true'] at *
    exact h.trans a b c hab hbc
  total a b := by
    cases hba : before b a with
    | false => rfl
    | true => rw [h.asymm b a hba]; rfl

theorem ranked_sorted (h : Ranks before) (items : List α) : Ranked before (sorted before items) :=
  (List.pairwise_mergeSort h.orders.trans h.orders.total items).imp fun hab =>
    Bool.not_eq_true' _ ▸ hab

/-- Sorting leaves what ties with an item in its order. -/
theorem filter_ties_sorted (h : Ranks before) (a : α) (items : List α) :
    (sorted before items).filter (ties before a) = items.filter (ties before a) := by
  have hties : (items.filter (ties before a)).Pairwise fun b c => !before c b := by
    refine List.pairwise_of_forall_mem_list fun b hb c hc => ?_
    have hb := ties_iff.1 (List.mem_filter.1 hb).2
    have hc := ties_iff.1 (List.mem_filter.1 hc).2
    rw [h.trans _ _ _ hb.1 hc.2]
    rfl
  have hsub : (items.filter (ties before a)).Sublist (sorted before items) :=
    List.sublist_mergeSort h.orders.trans h.orders.total hties List.filter_sublist
  have hfilter := hsub.filter (ties before a)
  rw [List.filter_filter] at hfilter
  simp only [Bool.and_self] at hfilter
  exact (hfilter.eq_of_length (((List.mergeSort_perm _ _).filter _).length_eq).symm).symm

/-- **One more item in the sort**: it is put in its place. -/
theorem insert_sorted (h : Ranks before) (items : List α) (item : α) :
    insert before item (sorted before items) = sorted before (items ++ [item]) := by
  have hranked := ranked_sorted h items
  refine eq_of_filter_ties h (hranked.insert h item) (ranked_sorted h _) fun a => ?_
  rw [filter_ties_insert h hranked, filter_ties_sorted h, List.filter_append, List.filter_append,
    filter_ties_sorted h]

/-- **One more item in its start**: it moves nothing of the rest ahead. -/
theorem push_take (h : Ranks before) (hxs : Ranked before xs) (capacity : Int) (item : α) :
    push capacity before (xs.take capacity.toNat) item =
      (insert before item xs).take capacity.toNat := by
  obtain ⟨low, high, rfl, hlow, hhigh⟩ := exists_parts h hxs item
  rw [push]
  generalize capacity.toNat = most
  have hcut := hxs.sublist (List.take_sublist most _)
  rw [List.take_append] at hcut ⊢
  rw [insert_append h hcut (fun b hb => hlow b (List.mem_of_mem_take hb))
      (fun b hb => hhigh b (List.mem_of_mem_take hb)),
    insert_append h hxs hlow hhigh, List.take_append, List.take_append, List.take_take,
    Nat.min_self, List.length_take, show most - min most low.length = most - low.length by omega]
  congr 1
  cases most - low.length with
  | zero => rfl
  | succ room =>
    rw [List.take_succ_cons, List.take_succ_cons, List.take_take,
      Nat.min_eq_left (Nat.le_succ room)]

/-- **The leaders of a run are the start of its stable sort.** -/
theorem foldl_push_sorted (h : Ranks before) (capacity : Int) : ∀ (items pushed : List α),
    items.foldl (push capacity before) ((sorted before pushed).take capacity.toNat) =
      (sorted before (pushed ++ items)).take capacity.toNat
  | [], pushed => by rw [List.foldl_nil, List.append_nil]
  | item :: items, pushed => by
    rw [List.foldl_cons, push_take h (ranked_sorted h pushed), insert_sorted h,
      foldl_push_sorted h capacity items, List.append_assoc, List.singleton_append]

/-! ## Sorting by a key -/

section

variable {κ : Type*} [LinearOrder κ] (key : α → κ)

/-- The order by a key of the items. -/
def byKey (a b : α) : Bool := decide (key a < key b)

/-- A stable sort of some items by a key: they ascend, and equal keys stay in their order. -/
structure IsStableSort (items sorted : List α) : Prop where
  perm : sorted.Perm items
  ascending : sorted.Pairwise fun a b => key a ≤ key b
  stable : ∀ k, sorted.filter (fun a => key a = k) = items.filter fun a => key a = k

theorem ranks_byKey : Ranks (byKey key) where
  asymm a b hab := decide_eq_false (of_decide_eq_true hab).asymm
  trans a b c hba hcb := by
    simp only [byKey, decide_eq_false_iff_not, not_lt] at *
    exact hba.trans hcb

theorem ties_byKey (a : α) : ties (byKey key) a = fun b => decide (key b = key a) := by
  funext b
  rw [Bool.eq_iff_iff, ties_iff, byKey, byKey, decide_eq_false_iff_not, decide_eq_false_iff_not,
    decide_eq_true_eq, not_lt, not_lt]
  exact le_antisymm_iff.symm

theorem sorted_byKey (items : List α) :
    sorted (byKey key) items = items.mergeSort fun a b => decide (key a ≤ key b) := by
  simp only [sorted, byKey, ← decide_not, not_lt]

theorem ranked_byKey_iff : Ranked (byKey key) xs ↔ xs.Pairwise fun a b => key a ≤ key b := by
  simp only [Ranked, byKey, decide_eq_false_iff_not, not_lt]

variable {key}

/-- There is one stable sort. -/
theorem IsStableSort.eq {items xs ys : List α} (hxs : IsStableSort key items xs)
    (hys : IsStableSort key items ys) : xs = ys := by
  refine eq_of_filter_ties (ranks_byKey key) ((ranked_byKey_iff key).2 hxs.ascending)
    ((ranked_byKey_iff key).2 hys.ascending) fun a => ?_
  rw [ties_byKey, hxs.stable, hys.stable]

variable (key)

theorem isStableSort_mergeSort (items : List α) :
    IsStableSort key items (items.mergeSort fun a b => decide (key a ≤ key b)) where
  perm := List.mergeSort_perm _ _
  ascending := by
    rw [← sorted_byKey, ← ranked_byKey_iff]
    exact ranked_sorted (ranks_byKey key) items
  stable k := by
    by_cases hk : ∃ a ∈ items, key a = k
    · obtain ⟨a, -, rfl⟩ := hk
      rw [← sorted_byKey, ← ties_byKey]
      exact filter_ties_sorted (ranks_byKey key) a items
    · have hnone : items.filter (fun a => key a = k) = [] :=
        List.filter_eq_nil_iff.2 fun a ha hkey => hk ⟨a, ha, of_decide_eq_true hkey⟩
      have hperm := (List.mergeSort_perm items fun a b => decide (key a ≤ key b)).filter
        fun a => decide (key a = k)
      rw [hnone] at hperm ⊢
      exact hperm.eq_nil

/-- **Keeping the leaders is sorting and cutting off.**  Whatever the capacity and the key, the
leaders of a run are the start of the stable sort of all its items; they are as many as they can
be, and none of those cut off has a smaller key. -/
theorem leaders_eq_take_mergeSort (capacity : Int) (items : List α) :
    ∃ all, IsStableSort key items all ∧ (∀ other, IsStableSort key items other → other = all) ∧
      (all = items.mergeSort fun a b => decide (key a ≤ key b)) ∧
      items.foldl (push capacity (byKey key)) [] = all.take capacity.toNat ∧
      (items.foldl (push capacity (byKey key)) []).length = min capacity.toNat items.length ∧
      ∀ a ∈ items.foldl (push capacity (byKey key)) [], ∀ b ∈ all.drop capacity.toNat,
        key a ≤ key b := by
  have hsort := isStableSort_mergeSort key items
  have hleaders := foldl_push_sorted (ranks_byKey key) capacity items []
  rw [sorted_byKey, sorted_byKey, List.mergeSort_nil, List.take_nil, List.nil_append] at hleaders
  refine ⟨_, hsort, fun other hother => hother.eq hsort, rfl, hleaders, ?_, ?_⟩
  · rw [hleaders, List.length_take, hsort.perm.length_eq]
  · rw [hleaders]
    have hascending := hsort.ascending
    rw [← List.take_append_drop capacity.toNat (items.mergeSort _), List.pairwise_append]
      at hascending
    exact hascending.2.2

/-- Equal keys stay in their order, also where the capacity cuts between them. -/
example : [(2, "a"), (1, "b"), (2, "c"), (1, "d")].foldl (push 3 (byKey Prod.fst)) [] =
    [(1, "b"), (1, "d"), (2, "a")] := by
  decide +kernel

end

end Ranking

/-! ## The largest files -/

namespace Sample

/-- What samples are ranked by: the size, the largest first, and then the path. -/
def rank (s : Sample) : ℕᵒᵈ ×ₗ String := toLex (OrderDual.toDual s.size, s.path)

theorem before_eq_byKey : before = Ranking.byKey rank := by
  funext a b
  rw [Bool.eq_iff_iff, before_iff, Ranking.byKey, decide_eq_true_eq, rank, rank,
    Prod.Lex.toLex_lt_toLex]
  exact or_congr Iff.rfl (and_congr_left' OrderDual.toDual_inj.symm)

/-- **The largest files of a package**: the first ten of the stable sort of its files that have a
size. -/
theorem foldl_keep_eq_take (records : List IndexedFile) :
    records.foldl keep [] =
      ((ofRecords records).mergeSort fun a b => decide (rank a ≤ rank b)).take 10 := by
  have hten : capacity.toNat = 10 := rfl
  have hleaders := Ranking.foldl_push_sorted (Ranking.ranks_byKey rank) capacity
    (ofRecords records) []
  rwa [Ranking.sorted_byKey, Ranking.sorted_byKey, List.mergeSort_nil, List.take_nil,
    List.nil_append, hten, ← before_eq_byKey, ← foldl_keep_eq] at hleaders

end Sample

end ArchiveCensus
