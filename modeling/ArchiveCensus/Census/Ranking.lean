import ArchiveCensus.Text.Order
import ArchiveCensus.Metadata.Format
import ArchiveCensus.Census.Tally
import ArchiveCensus.Fault

/-!
# Census/Ranking — what comes first

A ranking puts the largest first, and settles ties by a second order.

* `push` keeps the start of the ranking of a run of items: each item is put in its place, after
  those that it ties with, and what falls beyond the capacity is dropped.  The place is found by
  halving, and in a long list by doubling steps before that; both end whatever the order is, so an
  item that nothing compares with has a place too.
* `leading` and `leadingFormats` are the first rows of a tally, by count and then by text.
-/

namespace ArchiveCensus.Ranking

/-! ## The order -/

/-- The order that puts the largest first and settles ties by `tie`. -/
def largestFirst {α β : Type} [LT β] [DecidableLT β] (size : α → β) (tie : α → α → Bool)
    (a b : α) : Bool :=
  if size b < size a then true else if size a < size b then false else tie a b

/-- Whether an item comes before another: it is larger, or neither is and its text is before. -/
def precedes {α β : Type} [LT β] [DecidableLT β] [LE β] [DecidableLE β] (size : α → β)
    (text : α → String) (a b : α) : Bool :=
  decide (size b < size a) ||
    (decide (size a ≤ size b) && decide (size b ≤ size a) && decide (text a < text b))

/-- The order by a text of the items. -/
def byText {α : Type} (text : α → String) (a b : α) : Bool := Text.upTo (text a) (text b)

/-- The order of formats: by key, then by name, then by version. -/
def byFormat (a b : Format) : Bool :=
  if a.registryKey ≠ b.registryKey then Text.upTo a.registryKey b.registryKey
  else if a.name ≠ b.name then Text.upTo a.name b.name
  else Text.upTo a.version b.version

/-! ## The leaders of a run -/

/-- The place that halving finds for an item between two places of a list: the item comes before
what is in that place, and not before what precedes it. -/
def place {α : Type} (before : α → α → Bool) (item : α) (xs : List α) (low high : Nat) : Nat :=
  if low < high then
    let middle := low + (high - low) / 2
    if xs[middle]?.any (before item) then place before item xs low middle
    else place before item xs (middle + 1) high
  else low
termination_by high - low

/-- The part of a list that the place of an item is in, as doubling steps from the front find it:
`low` is after all that was looked at, and `probe` is looked at next. -/
def stretch {α : Type} (before : α → α → Bool) (item : α) (xs : List α) (low probe : Nat) :
    Nat × Nat :=
  if h : probe < xs.length then
    if before item xs[probe] then (low, probe)
    else stretch before item xs (probe + 1) (2 * probe + 1)
  else (low, xs.length)
termination_by xs.length - probe

/-- The length from which on a list is long. -/
def longLength : Nat := 63

/-- The place of an item in a ranked list: its end, unless the item comes before the last one, and
else the place that halving finds. -/
def position {α : Type} (before : α → α → Bool) (item : α) (xs : List α) : Nat :=
  if xs.getLast?.any (before item) then
    let part := if xs.length < longLength then (0, xs.length) else stretch before item xs 0 0
    place before item xs part.1 part.2
  else xs.length

/-- Puts an item into a ranked list. -/
def insert {α : Type} (before : α → α → Bool) (item : α) (xs : List α) : List α :=
  let k := position before item xs
  xs.take k ++ item :: xs.drop k

/-- The leaders with one more item, at most `capacity` of them. -/
def push {α : Type} (capacity : Int) (before : α → α → Bool) (leaders : List α) (item : α) :
    List α :=
  (insert before item leaders).take capacity.toNat

/-- **The leaders never exceed their capacity.** -/
theorem length_push_le {α : Type} (capacity : Int) (before : α → α → Bool) (leaders : List α)
    (item : α) : (push capacity before leaders item).length ≤ capacity.toNat := by
  rw [push, List.length_take]
  exact Nat.min_le_left _ _

/-- A place lies between the two that it is sought between. -/
theorem place_bounds {α : Type} (before : α → α → Bool) (item : α) (xs : List α)
    (low high : Nat) (h : low ≤ high) :
    low ≤ place before item xs low high ∧ place before item xs low high ≤ high := by
  fun_induction place before item xs low high with
  | case1 low high hlt middle hitem ih =>
      have := ih (by omega)
      omega
  | case2 low high hlt middle hitem ih =>
      have := ih (by omega)
      omega
  | case3 low high hlt => exact ⟨Nat.le_refl _, h⟩

/-- What halving finds: the item comes before what is in its place, and does not come before what
precedes that place. -/
theorem before_place {α : Type} (before : α → α → Bool) (item : α) (xs : List α)
    (low high : Nat) (h : low ≤ high) :
    (place before item xs low high < high →
      xs[place before item xs low high]?.any (before item) = true) ∧
    (low < place before item xs low high →
      xs[place before item xs low high - 1]?.any (before item) = false) := by
  fun_induction place before item xs low high with
  | case1 low high hlt middle hitem ih =>
      obtain ⟨hfound, hpast⟩ := ih (by omega)
      refine ⟨fun _ => ?_, hpast⟩
      have hle := (place_bounds before item xs low middle (by omega)).2
      rcases Nat.lt_or_eq_of_le hle with hless | heq
      · exact hfound hless
      · rwa [heq]
  | case2 low high hlt middle hitem ih =>
      obtain ⟨hfound, hpast⟩ := ih (by omega)
      refine ⟨hfound, fun _ => ?_⟩
      have hle := (place_bounds before item xs (middle + 1) high (by omega)).1
      rcases Nat.lt_or_eq_of_le hle with hless | heq
      · exact hpast hless
      · rw [← heq, Nat.add_sub_cancel]
        exact eq_false_of_ne_true hitem
  | case3 low high hlt =>
      exact ⟨fun hless => absurd hless hlt, fun hless => absurd hless (Nat.lt_irrefl low)⟩

/-- Doubling steps end with a part of the list. -/
theorem stretch_bounds {α : Type} (before : α → α → Bool) (item : α) (xs : List α)
    (low probe : Nat) (hprobe : low ≤ probe) (hlow : low ≤ xs.length) :
    (stretch before item xs low probe).1 ≤ (stretch before item xs low probe).2 ∧
      (stretch before item xs low probe).2 ≤ xs.length := by
  fun_induction stretch before item xs low probe with
  | case1 low probe hlt hitem => exact ⟨hprobe, Nat.le_of_lt hlt⟩
  | case2 low probe hlt hitem ih => exact ih (by omega) hlt
  | case3 low probe hlt => exact ⟨hlow, Nat.le_refl _⟩

/-- The place of an item lies in the list, or at its end. -/
theorem position_le {α : Type} (before : α → α → Bool) (item : α) (xs : List α) :
    position before item xs ≤ xs.length := by
  rw [position]
  split
  · split
    · exact (place_bounds before item xs 0 xs.length (Nat.zero_le _)).2
    · have hpart := stretch_bounds before item xs 0 0 (Nat.le_refl _) (Nat.zero_le _)
      exact Nat.le_trans (place_bounds before item xs _ _ hpart.1).2 hpart.2
  · exact Nat.le_refl _

/-- An item put in its place is one more item. -/
theorem insert_perm {α : Type} (before : α → α → Bool) (item : α) (xs : List α) :
    (insert before item xs).Perm (item :: xs) := by
  rw [insert]
  conv => rhs; rw [← List.take_append_drop (position before item xs) xs]
  exact List.perm_middle

/-! ## The first rows of a tally -/

/-- The first rows; all of them where the limit is not positive. -/
def limited {α : Type} (limit : Int) (rows : List α) : List α :=
  if 0 < limit then rows.take limit.toNat else rows

/-- A text and its count. -/
structure Row where
  key : String
  count : Int
  deriving DecidableEq, Repr

/-- A format and its count. -/
structure FormatRow where
  format : Format
  count : Int
  deriving DecidableEq, Repr

/-- The order of the rows of a tally. -/
def byCount : Row → Row → Bool := largestFirst Row.count (byText Row.key)

/-- The order of the rows of a tally of formats. -/
def byFormatRow : FormatRow → FormatRow → Bool :=
  largestFirst FormatRow.count fun a b => byFormat a.format b.format

/-- The texts of a tally that were met most often. -/
def leading (limit : Int) (counts : Tally) : List Row :=
  limited limit ((counts.map fun (key, n) => Row.mk key n).mergeSort byCount)

/-- The formats of a tally of signatures that were met most often, where `separator` stands between
the parts of a signature. -/
def leadingFormats (limit : Int) (separator : String) (counts : Tally) :
    Except Defect (List FormatRow) := do
  let rows ← counts.mapM fun (signature, n) =>
    match Format.ofSignature? separator.toList signature with
    | some format => .ok (FormatRow.mk format n)
    | none => .error .emptySeparator
  return limited limit (rows.mergeSort byFormatRow)

end ArchiveCensus.Ranking
