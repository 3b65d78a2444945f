/-!
# Census/Tally — how often each text was met

A tally is a list of texts with their counts, in the order in which the texts first came; each text
stands in it once.  Everything about a tally is said through `count`, the count of one text.
-/

namespace ArchiveCensus

/-- Counts of texts, in the order in which the texts first came. -/
abbrev Tally := List (String × Int)

namespace Tally

/-- The count of a text; zero for a text that was not met. -/
def count (key : String) : Tally → Int
  | [] => 0
  | (k, n) :: rest => if k = key then n else count key rest

/-- The tally in which the count of a text is a function of its count before. -/
def modify (key : String) (f : Int → Int) : Tally → Tally
  | [] => [(key, f 0)]
  | (k, n) :: rest => if k = key then (k, f n) :: rest else (k, n) :: modify key f rest

/-- Counts a text once more. -/
def bump (t : Tally) (key : String) : Tally := t.modify key (· + 1)

/-- Counts a text once more unless it is empty. -/
def bumpGiven (t : Tally) (key : String) : Tally :=
  if key.isEmpty then t else t.bump key

/-- Counts each of several texts once more. -/
def bumpAll (t : Tally) (keys : List String) : Tally := keys.foldl bump t

/-- The texts that were met. -/
def keys (t : Tally) : List String := t.map Prod.fst

/-! ## Counts -/

/-- **Changing one count leaves the others alone.** -/
theorem count_modify (key key' : String) (f : Int → Int) :
    ∀ t : Tally, (t.modify key f).count key' =
      if key = key' then f (t.count key) else t.count key'
  | [] => by simp [modify, count]
  | (k, n) :: rest => by
      have ih := count_modify key key' f rest
      by_cases hk : k = key
      · subst hk
        by_cases h : k = key' <;> simp [modify, count, h]
      · by_cases hk' : k = key'
        · subst hk'
          simp [modify, count, hk, Ne.symm hk]
        · simp [modify, count, hk, hk', ih]

/-- One more for the text counted, and nothing for the others. -/
theorem count_bump (t : Tally) (key key' : String) :
    (t.bump key).count key' = t.count key' + if key = key' then 1 else 0 := by
  rw [bump, count_modify]
  by_cases h : key = key' <;> simp [h]

/-! ## Keys -/

/-- A text that was met keeps its place, and a new one comes last. -/
theorem keys_modify (key : String) (f : Int → Int) :
    ∀ t : Tally, (t.modify key f).keys = if key ∈ t.keys then t.keys else t.keys ++ [key]
  | [] => rfl
  | (k, n) :: rest => by
      have ih := keys_modify key f rest
      simp only [keys] at ih
      by_cases hk : k = key
      · simp [modify, keys, hk]
      · by_cases h : key ∈ rest.map Prod.fst <;> simp [modify, keys, hk, Ne.symm hk, ih, h]

end Tally

end ArchiveCensus
