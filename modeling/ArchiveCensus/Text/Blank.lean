/-!
# Text/Blank — the characters that do not count at the edges of a text

Two classes are in use, one inside the other:

* `isBlank` — the white space of the Unicode standard; numerals may stand between blanks.
* `isPadding` — blanks and the four information separators; texts are trimmed of padding.

`strip` removes a class from both ends.  It only ever cuts at the ends
(`stripEnd_append_takeWhile`), and it leaves nothing exactly when there was nothing else
(`strip_eq_nil_iff`).
-/

namespace ArchiveCensus.Text

/-! ## The two classes -/

/-- White space: the tab and line controls, the space, and the spaces beyond ASCII. -/
def isBlank (c : Char) : Bool :=
  let n := c.toNat
  (0x09 ≤ n && n ≤ 0x0D) || n == 0x20 || n == 0x85 || n == 0xA0 || n == 0x1680 ||
    (0x2000 ≤ n && n ≤ 0x200A) || n == 0x2028 || n == 0x2029 || n == 0x202F || n == 0x205F ||
    n == 0x3000

/-- What surrounds a text without belonging to it: white space and the separators U+001C to
U+001F. -/
def isPadding (c : Char) : Bool :=
  isBlank c || (0x1C ≤ c.toNat && c.toNat ≤ 0x1F)

/-- Every blank is padding. -/
theorem isPadding_of_isBlank {c : Char} (h : isBlank c = true) : isPadding c = true := by
  simp [isPadding, h]

/-! ## Cutting at the ends -/

/-- Removes the characters of `p` from the end of a text. -/
def stripEnd (p : Char → Bool) (cs : List Char) : List Char :=
  (cs.reverse.dropWhile p).reverse

/-- Removes the characters of `p` from both ends of a text. -/
def strip (p : Char → Bool) (cs : List Char) : List Char :=
  stripEnd p (cs.dropWhile p)

/-- The text without the padding around it. -/
def trim (s : String) : String :=
  String.ofList (strip isPadding s.toList)

/-- The text without any of the characters of `p` at its ends. -/
def stripString (p : Char → Bool) (s : String) : String :=
  String.ofList (strip p s.toList)

/-- The text without any of the characters of `p` at its end. -/
def stripStringEnd (p : Char → Bool) (s : String) : String :=
  String.ofList (stripEnd p s.toList)

@[simp] theorem strip_nil (p : Char → Bool) : strip p [] = [] := rfl

@[simp] theorem toList_trim (s : String) : (trim s).toList = strip isPadding s.toList := by
  simp [trim]

/-- What `stripEnd` removes is a run of `p` at the end. -/
theorem stripEnd_append_takeWhile (p : Char → Bool) (cs : List Char) :
    stripEnd p cs ++ (cs.reverse.takeWhile p).reverse = cs := by
  rw [stripEnd, ← List.reverse_append, List.takeWhile_append_dropWhile, List.reverse_reverse]

/-- Dropping a class from the front leaves nothing exactly when all of the text is of it. -/
theorem dropWhile_eq_nil {p : Char → Bool} :
    ∀ {cs : List Char}, cs.dropWhile p = [] ↔ ∀ c ∈ cs, p c = true
  | [] => by simp
  | c :: cs => by
      by_cases h : p c = true
      · simp [h, dropWhile_eq_nil]
      · simp [h]

/-- Nothing is left at the end exactly when all of the text is of the class. -/
theorem stripEnd_eq_nil_iff {p : Char → Bool} {cs : List Char} :
    stripEnd p cs = [] ↔ ∀ c ∈ cs, p c = true := by
  rw [stripEnd, List.reverse_eq_nil_iff, dropWhile_eq_nil]
  simp only [List.mem_reverse]

/-- **A text of the class alone is stripped to nothing, and no other text is.** -/
theorem strip_eq_nil_iff {p : Char → Bool} {cs : List Char} :
    strip p cs = [] ↔ ∀ c ∈ cs, p c = true := by
  rw [strip, stripEnd_eq_nil_iff]
  constructor
  · intro h
    by_cases hd : cs.dropWhile p = []
    · exact dropWhile_eq_nil.1 hd
    · exact absurd (h _ (List.head_mem hd)) (by simp [List.head_dropWhile_not])
  · intro h c hc
    exact h c ((List.dropWhile_sublist p).subset hc)

end ArchiveCensus.Text
