import ArchiveCensus.Proofs.Census.Formats

/-!
# Proofs/Census/FirstRows — the first rows of a tally are its top

The rows of a tally are sorted by count and text, and no two of them tie, so they are strictly in
order.  The first of them are then a start of that order: what is left out comes after all that is
kept, also where the limit cuts through rows of one count.

* `Text.codePoints_lt_iff` — texts are ordered by code point.
* `Ranking.exists_ranked_leading` — all rows of a tally, strictly in order.
* `Ranking.IsTop` — rows that are the top of a tally.
* `Ranking.leading_isTop` — its first rows are, and they depend on its entries alone.
-/

namespace ArchiveCensus

/-! ## Code points -/

/-- The code points of a text. -/
def Text.codePoints (s : String) : List Nat := s.toList.map Char.toNat

theorem Text.map_toNat_lt_iff : ∀ {cs ds : List Char},
    cs.map Char.toNat < ds.map Char.toNat ↔ cs < ds
  | [], [] => by simp
  | [], _ :: _ => by simp
  | _ :: _, [] => by simp
  | c :: cs, d :: ds => by
    have hchar : c.toNat < d.toNat ↔ c < d := Iff.rfl
    rw [List.map_cons, List.map_cons, List.cons_lt_cons_iff, List.cons_lt_cons_iff, hchar,
      Char.toNat_inj, map_toNat_lt_iff]

/-- **Texts are ordered by code point.** -/
theorem Text.codePoints_lt_iff {a b : String} : codePoints a < codePoints b ↔ a < b :=
  map_toNat_lt_iff

namespace Ranking

/-! ## Rows in order -/

/-- A row comes before another: it counts more, or as much and its text comes first by code
point. -/
def Row.Before (a b : Row) : Prop :=
  b.count < a.count ∨ a.count = b.count ∧ Text.codePoints a.key < Text.codePoints b.key

/-- What a tally has for a row. -/
def Row.entry (row : Row) : String × Int := (row.key, row.count)

theorem Row.entry_injective : Function.Injective entry := fun a b h => by
  obtain ⟨hkey, hcount⟩ := Prod.mk.inj h
  cases a
  cases b
  cases hkey
  cases hcount
  rfl

/-- Different rows that are in order are strictly in order. -/
theorem before_of_byCount {a b : Row} (h : byCount a b = true) (hne : a ≠ b) : a.Before b := by
  unfold byCount largestFirst at h
  split at h
  · next hcount => exact .inl hcount
  · next hmore =>
    split at h
    · cases h
    · next hless =>
      have hcount : a.count = b.count := by omega
      obtain hkey | hkey := lt_or_eq_of_upTo h
      · exact .inr ⟨hcount, Text.codePoints_lt_iff.2 hkey⟩
      · refine absurd ?_ hne
        cases a
        cases b
        simp_all

/-- **All rows of a tally, strictly in order**, of which the first are kept. -/
theorem exists_ranked_leading {t : Tally} (h : t.keys.Nodup) (limit : Int) : ∃ all,
    leading limit t = limited limit all ∧ all.Pairwise Row.Before ∧
      (all.map Row.entry).Perm t := by
  have hentries : (t.map fun entry => Row.mk entry.1 entry.2).map Row.entry = t := by
    rw [List.map_map]
    exact List.map_id t
  have hdiffer : (t.map fun entry => Row.mk entry.1 entry.2).Nodup :=
    .of_map Row.entry (hentries.symm ▸ .of_map Prod.fst h)
  have hsort :=
    (List.mergeSort_perm (t.map fun entry => Row.mk entry.1 entry.2) byCount).map Row.entry
  rw [hentries] at hsort
  exact ⟨_, rfl, pairwise_mergeSort_of_nodup orders_byCount (fun _ _ => before_of_byCount) hdiffer,
    hsort⟩

/-- The first rows are entries of the tally. -/
theorem entry_mem_of_mem_leading {limit : Int} {t : Tally} {row : Row}
    (h : row ∈ leading limit t) : row.entry ∈ t := by
  have hmem := List.mem_mergeSort.1 ((limited_sublist limit _).mem h)
  obtain ⟨entry, hentry, rfl⟩ := List.mem_map.1 hmem
  exact hentry

/-! ## The top -/

/-- The first rows are a start of all rows. -/
theorem exists_limited_append {α : Type} (limit : Int) (rows : List α) :
    ∃ rest, limited limit rows ++ rest = rows := by
  rw [limited]
  split
  · exact ⟨_, List.take_append_drop _ _⟩
  · exact ⟨[], List.append_nil _⟩

/-- Rows are the top of a tally: they are strictly in order, they are entries of it, there are as
many of them as the limit and the tally allow, and every entry that is left out comes after each of
them. -/
structure IsTop (limit : Int) (t : Tally) (rows : List Row) : Prop where
  ordered : rows.Pairwise Row.Before
  entries : ∀ row ∈ rows, row.entry ∈ t
  length_eq : rows.length = if 0 < limit then min limit.toNat t.length else t.length
  before : ∀ row, row.entry ∈ t → row ∉ rows → ∀ kept ∈ rows, kept.Before row

/-- **The first rows of a tally are its top**, and every tally with the same entries, in whatever
order they came, has the same first rows. -/
theorem leading_isTop {t : Tally} (h : t.keys.Nodup) (limit : Int) :
    IsTop limit t (leading limit t) ∧ ∀ t' : Tally, t'.keys.Nodup →
      (∀ entry, entry ∈ t' ↔ entry ∈ t) → leading limit t' = leading limit t := by
  obtain ⟨all, hleading, hordered, hperm⟩ := exists_ranked_leading h limit
  obtain ⟨rest, hrest⟩ := exists_limited_append limit all
  rw [← hleading] at hrest
  have hmem : ∀ row, row.entry ∈ t ↔ row ∈ leading limit t ∨ row ∈ rest := fun row => by
    rw [← hperm.mem_iff, List.mem_map_of_injective Row.entry_injective, ← hrest, List.mem_append]
  rw [← hrest, List.pairwise_append] at hordered
  obtain ⟨hkept, -, hafter⟩ := hordered
  refine ⟨⟨hkept, fun row => entry_mem_of_mem_leading, ?_, ?_⟩, fun t' h' hsame => ?_⟩
  · have hlength : all.length = t.length := (List.length_map _).symm.trans hperm.length_eq
    rw [hleading, ← hlength, limited]
    split
    · exact List.length_take
    · rfl
  · intro row hrow hout kept hin
    exact hafter kept hin row (((hmem row).1 hrow).resolve_left hout)
  · have hsets := (List.perm_ext_iff_of_nodup (.of_map _ h') (.of_map _ h)).2 hsame
    exact leading_eq_of_perm hsets limit

/-- Of four texts, the first two rows are the one that was met most often and the first of the two
that tie; the other one is left out. -/
theorem leading_isTop_tie :
    IsTop 2 [("b", 2), ("a", 2), ("c", 5), ("d", 1)] [⟨"c", 5⟩, ⟨"a", 2⟩] ∧
      leading 2 [("c", 5), ("a", 2), ("b", 2), ("d", 1)] = [⟨"c", 5⟩, ⟨"a", 2⟩] := by
  have hsorted : leading 2 [("c", 5), ("a", 2), ("b", 2), ("d", 1)] = [⟨"c", 5⟩, ⟨"a", 2⟩] := by
    have hrows : [Row.mk "c" 5, ⟨"a", 2⟩, ⟨"b", 2⟩, ⟨"d", 1⟩].Pairwise (byCount · ·) := by
      decide +kernel
    exact congrArg (limited 2) (List.mergeSort_of_pairwise hrows)
  obtain ⟨htop, hsame⟩ :=
    leading_isTop (t := [("b", 2), ("a", 2), ("c", 5), ("d", 1)]) (by decide) 2
  have hrows := hsame [("c", 5), ("a", 2), ("b", 2), ("d", 1)] (by decide) fun entry => by
    simp only [List.mem_cons, List.not_mem_nil, or_false]
    tauto
  rw [← hrows, hsorted] at htop
  exact ⟨htop, hsorted⟩

end Ranking

end ArchiveCensus
