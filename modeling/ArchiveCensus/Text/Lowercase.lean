import ArchiveCensus.Text.Ranges
import ArchiveCensus.Text.Lowercase.Table

/-!
# Text/Lowercase — the lower-case form of a text

Lower-casing goes character by character, with two exceptions of the Unicode standard:

* the capital `İ` becomes two characters, `i` and a combining dot;
* the capital sigma becomes `ς` at the end of a word and `σ` elsewhere.

A sigma ends a word when, skipping the characters that do not carry case, a cased letter comes
before it and none comes after it.
-/

namespace ArchiveCensus.Text

/-! ## One character -/

/-- The code point a run table maps `n` to; `n` itself when no run holds it. -/
def mapCase (n : Nat) : List CaseRun → Nat
  | [] => n
  | r :: rest =>
      if n < r.first then n
      else if n ≤ r.last ∧ (n - r.first) % r.stride = 0 then (n + r.shift).toNat
      else mapCase n rest

/-- The lower-case form of a character out of context. -/
def lowerChar (c : Char) : List Char :=
  if c = 'İ' then ['i', '\u0307'] else [Char.ofNat (mapCase c.toNat lowerRuns)]

/-! ## The sigma at the end of a word -/

/-- Whether a character is skipped when case is looked for. -/
def isSkipped (c : Char) : Bool :=
  inRanges c.toNat skippedRanges

/-- Whether a character that is not skipped has case. -/
def isCased (c : Char) : Bool :=
  inRanges c.toNat casedRanges

/-- Whether the first character that is not skipped has case. -/
def startsCased (cs : List Char) : Bool :=
  match cs.dropWhile isSkipped with
  | [] => false
  | c :: _ => isCased c

/-- Whether a sigma between `before` (nearest first) and `after` ends a word. -/
def endsWord (before after : List Char) : Bool :=
  startsCased before && !startsCased after

/-! ## A text -/

/-- The lower-case form of a text that follows `before` (nearest first). -/
def lowerAfter (before : List Char) : List Char → List Char
  | [] => []
  | c :: cs =>
      (if c = 'Σ' then [if endsWord before cs then 'ς' else 'σ'] else lowerChar c) ++
        lowerAfter (c :: before) cs

/-- The lower-case form of a text. -/
def lower (s : String) : String :=
  String.ofList (lowerAfter [] s.toList)

@[simp] theorem lowerAfter_nil (before : List Char) : lowerAfter before [] = [] := rfl

end ArchiveCensus.Text
