import ArchiveCensus.Text.Blank
import ArchiveCensus.Text.Digit
import ArchiveCensus.Number.Binary64

/-!
# Number/Numeral — whole and decimal numbers written as text

A numeral may stand between blanks, carry a sign, use the decimal digits of any script, and set
single low lines between digits (`1_000`).

* `wholeNumber?` reads a numeral of digits alone, up to `maxDigits` of them.
* `decimalNumber?` reads digits with a fraction and an exponent, and the words for the infinities
  and for not a number, as the nearest double.
-/

namespace ArchiveCensus.Numeral

open Text

/-! ## Runs of digits -/

/-- A run of digits: its value, how many digits it has, and the text after it. -/
structure Run where
  value : Nat
  count : Nat
  rest : List Char

/-- Extends a run by digits, each of which may follow a single low line. -/
def extend (digit? : Char → Option Nat) (value count : Nat) : List Char → Run
  | [] => ⟨value, count, []⟩
  | [c] =>
      match digit? c with
      | some d => ⟨value * 10 + d, count + 1, []⟩
      | none => ⟨value, count, [c]⟩
  | c :: c' :: rest =>
      match digit? c with
      | some d => extend digit? (value * 10 + d) (count + 1) (c' :: rest)
      | none =>
          if c = '_' then
            match digit? c' with
            | some d => extend digit? (value * 10 + d) (count + 1) rest
            | none => ⟨value, count, c :: c' :: rest⟩
          else ⟨value, count, c :: c' :: rest⟩

/-- The run of digits at the front of a text, if a digit stands there. -/
def run? (digit? : Char → Option Nat) : List Char → Option Run
  | [] => none
  | c :: rest => (digit? c).map fun d => extend digit? d 1 rest

/-- The sign at the front of a text, and the text after it. -/
def sign : List Char → Bool × List Char
  | '-' :: rest => (true, rest)
  | '+' :: rest => (false, rest)
  | cs => (false, cs)

/-! ## Whole numbers -/

/-- The most digits a whole number may be read from. -/
def maxDigits : Nat := 4300

/-- A signed magnitude. -/
def signedValue (negative : Bool) (n : Nat) : Int :=
  if negative then -(n : Int) else n

/-- The whole number a text stands for. -/
def wholeNumber? (cs : List Char) : Option Int :=
  let (negative, body) := sign (strip isBlank cs)
  match run? digit? body with
  | some ⟨value, count, []⟩ => if count ≤ maxDigits then some (signedValue negative value) else none
  | _ => none

/-! ## Decimal numbers -/

/-- The exponent at the front of a text: `e`, a sign and digits.  Without one the exponent is zero
and nothing is read. -/
def exponent? : List Char → Option (Int × List Char)
  | c :: rest =>
      if c = 'e' ∨ c = 'E' then
        let (negative, body) := sign rest
        (run? digit? body).map fun r => (signedValue negative r.value, r.rest)
      else some (0, c :: rest)
  | [] => some (0, [])

/-- The digits of a mantissa with the point taken out, how many of them followed the point, and the
text after them.  A digit must stand on one side of the point at least. -/
def mantissa? (cs : List Char) : Option (Nat × Nat × List Char) :=
  match run? digit? cs with
  | some r =>
      match r.rest with
      | '.' :: rest =>
          match run? digit? rest with
          | some f => some (r.value * Nat.pow 10 f.count + f.value, f.count, f.rest)
          | none => some (r.value, 0, rest)
      | rest => some (r.value, 0, rest)
  | none =>
      match cs with
      | '.' :: rest => (run? digit? rest).map fun f => (f.value, f.count, f.rest)
      | _ => none

/-- A letter of ASCII in lower case; every other character as it is. -/
def asciiLower (c : Char) : Char :=
  if 0x41 ≤ c.toNat ∧ c.toNat ≤ 0x5A then Char.ofNat (c.toNat + 0x20) else c

/-- The double nearest to the number a text stands for. -/
def decimalNumber? (cs : List Char) : Option Binary64 :=
  let (negative, body) := sign (strip isBlank cs)
  match String.ofList (body.map asciiLower) with
  | "inf" | "infinity" => some (.infinite negative)
  | "nan" => some .nan
  | _ => do
      let (digits, places, rest) ← mantissa? body
      match ← exponent? rest with
      | (e, []) => some (.ofDecimal negative digits (e - places))
      | _ => none

end ArchiveCensus.Numeral
