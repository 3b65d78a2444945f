/-!
# Text/Ranges — sets of code points as ascending ranges

A property of the Unicode standard is kept as a list of closed ranges in ascending order, so that a
search may stop at the first range that starts beyond the code point.
-/

namespace ArchiveCensus.Text

/-- Whether a code point lies in one of the ascending ranges. -/
def inRanges (n : Nat) : List (Nat × Nat) → Bool
  | [] => false
  | (lo, hi) :: rest => if n < lo then false else if n ≤ hi then true else inRanges n rest

end ArchiveCensus.Text
