import Mathlib.Algebra.BigOperators.Ring.Finset
import ArchiveCensus.Proofs.Census.Shuffle

/-!
# Proofs/Census/Total — what the counts of a tally add up to

A tally counts each text in one place, so its counts add up to the number of texts that it was
given, the empty ones excepted.  The first rows of a tally have some of its counts, none of them
negative, so they add up to no more.

* `Tally.Counts.total_eq` — what the counts of a tally add up to.
* `Tally.Counts.total_leading_le` — its first rows add up to no more than there were texts.
-/

namespace ArchiveCensus

namespace Tally

/-! ## Counts -/

/-- What some counts add up to. -/
def total (counts : List Int) : Int := counts.foldl (· + ·) 0

theorem total_eq_of_perm {counts counts' : List Int} (h : counts.Perm counts') :
    total counts = total counts' := by
  rw [total, total, ← List.sum_eq_foldl, ← List.sum_eq_foldl, h.sum_eq]

/-- Some of several counts add up to no more than all of them, where none is negative. -/
theorem total_le_of_sublist {counts counts' : List Int} (h : counts.Sublist counts')
    (hpos : ∀ n ∈ counts', 0 ≤ n) : total counts ≤ total counts' := by
  rw [total, total, ← List.sum_eq_foldl, ← List.sum_eq_foldl]
  exact h.sum_le_sum hpos

namespace Counts

variable {t : Tally} {texts : List String}

/-- The counts in a tally are those of its texts. -/
theorem map_snd_eq (h : t.Counts texts) :
    t.map Prod.snd = t.keys.map fun key => (texts.count key : Int) := by
  have hcount : ∀ key ∈ t.keys, t.count key = (texts.count key : Int) := fun key hkey =>
    h.count key ((h.mem_keys key).1 hkey).1
  conv => lhs; rw [eq_map_keys h.nodup_keys]
  rw [List.map_map]
  exact List.map_congr_left hcount

theorem nonneg (h : t.Counts texts) : ∀ n ∈ t.map Prod.snd, 0 ≤ n := by
  rw [h.map_snd_eq]
  intro n hn
  obtain ⟨key, -, rfl⟩ := List.mem_map.1 hn
  exact Int.natCast_nonneg _

/-- A text stands in a tally with its count. -/
theorem mem_iff (h : t.Counts texts) {key : String} {n : Int} :
    (key, n) ∈ t ↔ key ≠ "" ∧ key ∈ texts ∧ n = texts.count key := by
  rw [← lookup_eq_some_iff h.nodup_keys, lookup_eq, Option.ite_none_right_eq_some,
    Option.some.injEq, h.mem_keys, and_assoc]
  refine and_congr_right fun hkey => and_congr_right fun _ => ?_
  rw [h.count key hkey, eq_comm]

/-- **The counts of a tally add up to the number of the texts**, the empty ones excepted. -/
theorem total_eq (h : t.Counts texts) :
    total (t.map Prod.snd) = (texts.countP fun s => decide (s ≠ "") : Nat) := by
  have hkeys : t.keys.Perm (texts.dedup.filter fun s => decide (s ≠ "")) := by
    refine (List.perm_ext_iff_of_nodup h.nodup_keys ((List.nodup_dedup texts).filter _)).2 ?_
    intro key
    rw [h.mem_keys, List.mem_filter, List.mem_dedup, decide_eq_true_iff, and_comm]
  rw [h.map_snd_eq, total, ← List.sum_eq_foldl, (hkeys.map _).sum_eq,
    ← List.sum_map_count_dedup_filter_eq_countP, Nat.cast_list_sum, List.map_map]
  rfl

/-- So they add up to no more than there are texts. -/
theorem total_le (h : t.Counts texts) : total (t.map Prod.snd) ≤ texts.length := by
  rw [h.total_eq]
  exact Int.ofNat_le.2 List.countP_le_length

end Counts

end Tally

/-! ## First rows -/

namespace Ranking

theorem limited_sublist {α : Type} (limit : Int) (rows : List α) :
    (limited limit rows).Sublist rows := by
  rw [limited]
  split
  · exact List.take_sublist _ _
  · exact List.Sublist.refl _

/-- There are as many first rows as rows, up to the limit. -/
theorem length_limited {α : Type} {limit : Int} (hpos : 0 < limit) (rows : List α) :
    (limited limit rows).length = min limit.toNat rows.length := by
  rw [limited, if_pos hpos, List.length_take]

/-- All rows are among the first where there are no more of them than the limit. -/
theorem limited_eq_self {α : Type} {limit : Int} {rows : List α} (h : rows.length ≤ limit) :
    limited limit rows = rows := by
  rw [limited]
  split
  · exact List.take_of_length_le (by omega)
  · rfl

/-- The rows of a tally have its counts. -/
theorem exists_sorted_leading (limit : Int) (t : Tally) : ∃ sorted : List Row,
    leading limit t = limited limit sorted ∧ (sorted.map Row.count).Perm (t.map Prod.snd) := by
  refine ⟨_, rfl, ((List.mergeSort_perm _ byCount).map Row.count).trans ?_⟩
  rw [List.map_map]
  exact .refl _

/-- The first of them have some of its counts. -/
theorem total_leading_le {t : Tally} (hpos : ∀ n ∈ t.map Prod.snd, 0 ≤ n) (limit : Int) :
    Tally.total ((leading limit t).map Row.count) ≤ Tally.total (t.map Prod.snd) := by
  obtain ⟨sorted, hleading, hperm⟩ := exists_sorted_leading limit t
  calc Tally.total ((leading limit t).map Row.count)
      ≤ Tally.total (sorted.map Row.count) := by
        rw [hleading]
        exact Tally.total_le_of_sublist ((limited_sublist limit sorted).map _) fun n hn =>
          hpos n (hperm.mem_iff.1 hn)
    _ = Tally.total (t.map Prod.snd) := Tally.total_eq_of_perm hperm

end Ranking

/-- **The first rows of a tally add up to no more than there were texts.** -/
theorem Tally.Counts.total_leading_le {t : Tally} {texts : List String} (h : t.Counts texts)
    (limit : Int) : total ((Ranking.leading limit t).map Ranking.Row.count) ≤ texts.length :=
  Int.le_trans (Ranking.total_leading_le h.nonneg limit) h.total_le

end ArchiveCensus
