/-!
# Text/Wrap — text in lines of a width

A text is cut into *pieces* that stay on one line each, and the pieces fill line after line: a piece
goes onto the line at hand where it fits, and starts the next one where it does not.

* `pieces` — a text may be broken at its blanks, and in a word after a dash between letters.
* `cut` — a piece that is longer than a line may be broken anywhere.
* `fill` — the lines that pieces make.

No line of a text is longer than the width (`length_le_of_mem_lines`).
-/

namespace ArchiveCensus.Text.Wrap

/-! ## Pieces -/

/-- A piece of a text, and whether a blank stands before it. -/
structure Piece where
  spaced : Bool
  chars : List Char

/-- The parts of a word after the characters `start`, which are the last first. -/
def partsFrom (start : List Char) : List Char → List (List Char)
  | [] => [start.reverse]
  | c :: rest =>
      if c = '-' ∧ start.head?.any Char.isAlpha ∧ rest.head?.any Char.isAlpha then
        (c :: start).reverse :: partsFrom [] rest
      else partsFrom (c :: start) rest

/-- The pieces of a word that follows a blank. -/
def ofWord (word : List Char) : List Piece :=
  match partsFrom [] word with
  | [] => []
  | part :: parts => ⟨true, part⟩ :: parts.map (⟨false, ·⟩)

/-- The pieces of a text. -/
def pieces (text : List Char) : List Piece := (text.splitOn ' ').flatMap ofWord

/-- A piece that fits onto a line, or its characters one by one. -/
def cut (width : Nat) (p : Piece) : List Piece :=
  if p.chars.length ≤ width then [p]
  else
    match p.chars with
    | [] => []
    | c :: rest => ⟨p.spaced, [c]⟩ :: rest.map fun c => ⟨false, [c]⟩

/-! ## Lines -/

/-- A line with one more piece. -/
def extend (line : List Char) (p : Piece) : List Char :=
  if line.isEmpty then p.chars
  else if p.spaced then line ++ ' ' :: p.chars
  else line ++ p.chars

/-- The lines that pieces make after a line that has been begun. -/
def fillFrom (width : Nat) (line : List Char) : List Piece → List (List Char)
  | [] => [line]
  | p :: rest =>
      if line.isEmpty || (extend line p).length ≤ width then fillFrom width (extend line p) rest
      else line :: fillFrom width p.chars rest

/-- The lines that pieces make. -/
def fill (width : Nat) (ps : List Piece) : List (List Char) :=
  if ps.isEmpty then [] else fillFrom width [] ps

/-- The lines of a text. -/
def lines (width : Nat) (text : String) : List (List Char) :=
  fill width ((pieces text.toList).flatMap (cut width))

/-! ## Every line fits -/

theorem length_le_of_mem_fillFrom {width : Nat} {l : List Char} :
    ∀ {ps : List Piece} {line : List Char}, line.length ≤ width →
      (∀ p ∈ ps, p.chars.length ≤ width) → l ∈ fillFrom width line ps → l.length ≤ width
  | [], line, hline, _, hl => by
      simp only [fillFrom, List.mem_singleton] at hl
      exact hl ▸ hline
  | p :: rest, line, hline, hps, hl => by
      have hp := hps p List.mem_cons_self
      have hrest : ∀ q ∈ rest, q.chars.length ≤ width := fun q hq =>
        hps q (List.mem_cons_of_mem p hq)
      rw [fillFrom] at hl
      split at hl
      · rename_i h
        refine length_le_of_mem_fillFrom ?_ hrest hl
        by_cases he : line.isEmpty = true
        · simpa [extend, he] using hp
        · simpa [he] using h
      · rcases List.mem_cons.1 hl with rfl | hl
        · exact hline
        · exact length_le_of_mem_fillFrom hp hrest hl

/-- No line is longer than the width, where no piece is. -/
theorem length_le_of_mem_fill {width : Nat} {ps : List Piece} {l : List Char}
    (h : ∀ p ∈ ps, p.chars.length ≤ width) (hl : l ∈ fill width ps) : l.length ≤ width := by
  unfold fill at hl
  split at hl
  · cases hl
  · exact length_le_of_mem_fillFrom (show [].length ≤ width from Nat.zero_le width) h hl

/-- What a piece is cut into fits onto a line. -/
theorem length_le_of_mem_cut {width : Nat} (hw : 0 < width) {p q : Piece} (h : q ∈ cut width p) :
    q.chars.length ≤ width := by
  unfold cut at h
  split at h
  · rename_i hp
    rw [List.mem_singleton.1 h]
    exact hp
  · split at h
    · cases h
    · rcases List.mem_cons.1 h with rfl | h
      · exact hw
      · obtain ⟨c, -, rfl⟩ := List.mem_map.1 h
        exact hw

/-- **No line of a text is longer than the width.** -/
theorem length_le_of_mem_lines {width : Nat} (hw : 0 < width) {text : String} {l : List Char}
    (h : l ∈ lines width text) : l.length ≤ width := by
  refine length_le_of_mem_fill (fun p hp => ?_) h
  obtain ⟨q, -, hq⟩ := List.mem_flatMap.1 hp
  exact length_le_of_mem_cut hw hq

end ArchiveCensus.Text.Wrap
