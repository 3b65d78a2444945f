/-!
# Text/Order — texts in order

Texts are ordered by code point, character by character.  `sortTexts` sorts by that order;
`sortedDistinct` does so with each text once.
-/

namespace ArchiveCensus.Text

/-- Whether a text comes no later than another. -/
def upTo (a b : String) : Bool := !decide (b < a)

/-- The texts in order. -/
def sortTexts (ss : List String) : List String :=
  ss.mergeSort upTo

/-- The texts in order, each once. -/
def sortedDistinct (ss : List String) : List String :=
  sortTexts ss.eraseDups

end ArchiveCensus.Text
