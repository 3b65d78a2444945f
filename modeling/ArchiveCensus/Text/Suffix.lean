/-!
# Text/Suffix — the end of a text

`afterLast` is what follows the last character of a class: it has no character of the class
(`not_of_mem_afterLast`) and is the end of the text (`afterLast_suffix`).
-/

namespace ArchiveCensus.Text

/-- The longest suffix without a character of `p`. -/
def afterLast (p : Char → Bool) (cs : List Char) : List Char :=
  (cs.reverse.takeWhile (!p ·)).reverse

/-- What follows the last character of a class has none of it. -/
theorem not_of_mem_afterLast {p : Char → Bool} {cs : List Char} {c : Char}
    (h : c ∈ afterLast p cs) : p c = false := by
  have := List.all_eq_true.1 (List.all_takeWhile (p := (!p ·)) (l := cs.reverse)) c
    (List.mem_reverse.1 h)
  simpa using this

/-- What follows the last character of a class is the end of the text. -/
theorem afterLast_suffix (p : Char → Bool) (cs : List Char) : afterLast p cs <:+ cs := by
  have h := List.takeWhile_prefix (l := cs.reverse) (!p ·)
  simpa [afterLast] using List.reverse_suffix.2 h

end ArchiveCensus.Text
