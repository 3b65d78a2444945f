/-!
# Text/Percent — percent-encoded text

A `%` and two hexadecimal digits stand for one byte; runs of bytes are read as UTF-8.  Reading never
fails: a `%` without its digits stands for itself, and what is not UTF-8 becomes U+FFFD, once for
each longest piece that could have begun a character.
-/

namespace ArchiveCensus.Text.Percent

/-! ## Bytes that need not be UTF-8 -/

/-- The character put in the place of bytes that stand for none. -/
def replacement : Char := '\uFFFD'

/-- Whether a byte continues a character. -/
def isTail (b : Nat) : Bool := 0x80 ≤ b && b ≤ 0xBF

/-- The second bytes that may follow a lead byte: some leads exclude overlong forms, surrogates and
code points beyond the last. -/
def isSecond (lead b : Nat) : Bool :=
  isTail b &&
    !(lead == 0xE0 && b < 0xA0) && !(lead == 0xED && b > 0x9F) &&
    !(lead == 0xF0 && b < 0x90) && !(lead == 0xF4 && b > 0x8F)

/-- How many bytes follow a lead byte; none for a byte that leads no character. -/
def tailCount (lead : Nat) : Nat :=
  if 0xC2 ≤ lead && lead ≤ 0xDF then 1
  else if 0xE0 ≤ lead && lead ≤ 0xEF then 2
  else if 0xF0 ≤ lead && lead ≤ 0xF4 then 3
  else 0

/-- The bytes after a lead byte that continue its character, at most `tailCount` of them. -/
def tailOf (lead : Nat) (bytes : List Nat) : List Nat :=
  match tailCount lead, bytes with
  | 0, _ | _, [] => []
  | n + 1, b :: rest => if isSecond lead b then b :: (rest.take n).takeWhile isTail else []

/-- The character of a lead byte and its complete tail. -/
def assemble (lead : Nat) (tail : List Nat) : Char :=
  let first := if lead < 0xE0 then lead - 0xC0 else if lead < 0xF0 then lead - 0xE0 else lead - 0xF0
  Char.ofNat (tail.foldl (fun n b => n * 64 + (b - 0x80)) first)

/-- The text of some bytes, with the replacement character for what is not UTF-8. -/
def textOfBytes (bytes : List Nat) : List Char :=
  match bytes with
  | [] => []
  | b :: rest =>
      if b < 0x80 then Char.ofNat b :: textOfBytes rest
      else
        let tail := tailOf b rest
        let c := if tailCount b ≠ 0 ∧ tail.length = tailCount b then assemble b tail
          else replacement
        c :: textOfBytes (rest.drop tail.length)
termination_by bytes.length
decreasing_by
  · simp
  · simp only [List.length_drop, List.length_cons]; omega

/-! ## Escapes -/

/-- The value of a hexadecimal digit. -/
def hexDigit? (c : Char) : Option Nat :=
  let n := c.toNat
  if 0x30 ≤ n ∧ n ≤ 0x39 then some (n - 0x30)
  else if 0x41 ≤ n ∧ n ≤ 0x46 then some (n - 0x41 + 10)
  else if 0x61 ≤ n ∧ n ≤ 0x66 then some (n - 0x61 + 10)
  else none

/-- The byte an escape at the front of a text stands for, and the rest of the text. -/
def escape? : List Char → Option (Nat × List Char)
  | '%' :: h :: l :: rest =>
      match hexDigit? h, hexDigit? l with
      | some a, some b => some (a * 16 + b, rest)
      | _, _ => none
  | _ => none

/-- An escape is three characters long. -/
theorem length_of_escape? {cs rest : List Char} {b : Nat} (h : escape? cs = some (b, rest)) :
    cs.length = rest.length + 3 := by
  unfold escape? at h
  split at h
  · split at h
    · cases h; simp
    · cases h
  · cases h

/-- Reads a percent-encoded text.  `pending` holds the bytes of the present run of ASCII characters
and escapes, latest first; a character beyond ASCII ends the run and stands for itself. -/
def decodeFrom (pending : List Nat) (cs : List Char) : List Char :=
  match _h : escape? cs with
  | some (b, rest) => decodeFrom (b :: pending) rest
  | none =>
      match cs with
      | [] => textOfBytes pending.reverse
      | c :: rest =>
          if c.toNat < 0x80 then decodeFrom (c.toNat :: pending) rest
          else textOfBytes pending.reverse ++ c :: decodeFrom [] rest
termination_by cs.length
decreasing_by
  · rw [length_of_escape? _h]; omega
  · simp
  · simp

/-- The text that a percent-encoded text stands for. -/
def decode (cs : List Char) : List Char :=
  decodeFrom [] cs

end ArchiveCensus.Text.Percent
