import ArchiveCensus.Text.Digit
import ArchiveCensus.Text.Percent
import ArchiveCensus.Number.Numeral
import ArchiveCensus.Json.Raw

/-!
# Json/Reader — JSON text as documents

The reader takes the standard grammar and, beyond it, the words `NaN`, `Infinity` and `-Infinity`.
A number with neither fraction nor exponent is whole, and may have as many digits as a numeral may;
every other number is the nearest double.

A text fails in one of two ways: it is `malformed`, or it is fine up to a whole number with too many
digits.  Two escapes that are the halves of a surrogate pair stand for one character.  A half that
stands alone is read as it is, so what is read is a raw document.
-/

namespace ArchiveCensus.Json

open Text

/-- Why a text is no document. -/
inductive ReadError where
  | malformed
  | wholeTooLong (digits : Nat)
  deriving DecidableEq, Repr

/-- What a step of the reader gives: a value and the text after it. -/
abbrev Step (α : Type) := α × List Char

/-- The text is no document. -/
def malformed {α : Type} : Except ReadError α := .error .malformed

/-! ## Blanks and words -/

/-- The blanks between the parts of a document. -/
def isGap (c : Char) : Bool :=
  c == ' ' || c == '\t' || c == '\n' || c == '\r'

/-- The text after the blanks at its front. -/
def skip (cs : List Char) : List Char :=
  cs.dropWhile isGap

/-- Reads a given word. -/
def readWord (word : String) (value : Raw) (cs : List Char) : Except ReadError (Step Raw) :=
  match word.toList.isPrefixOf? cs with
  | some rest => .ok (value, rest)
  | none => malformed

/-! ## Texts -/

/-- The value of four hexadecimal digits. -/
def hexUnit? (a b c d : Char) : Option Nat := do
  return (← Percent.hexDigit? a) * 4096 + (← Percent.hexDigit? b) * 256 +
    (← Percent.hexDigit? c) * 16 + (← Percent.hexDigit? d)

/-- The character of a short escape, by what follows its backslash. -/
def shortEscape? (c : Char) : Option Char :=
  if c = '"' then some '"'
  else if c = '\\' then some '\\'
  else if c = '/' then some '/'
  else if c = 'b' then some '\x08'
  else if c = 'f' then some '\x0C'
  else if c = 'n' then some '\n'
  else if c = 'r' then some '\r'
  else if c = 't' then some '\t'
  else none

/-- The second half of a surrogate pair whose escape is at the front of a text, and the text after
it. -/
def lowAhead? : List Char → Option (Nat × List Char)
  | '\\' :: 'u' :: a :: b :: c :: d :: rest => do
      let v ← hexUnit? a b c d
      if isLowUnit v then return (v, rest) else none
  | _ => none

/-- The letter of one or two `u` escapes whose first digits are given, and the text after it.  What
comes behind a first half and is not its second one is left to be read by itself. -/
def unitEscape? (a b c d : Char) (rest : List Char) : Option (Letter × List Char) := do
  let u ← hexUnit? a b c d
  if high : isHighUnit u = true then
    match lowAhead? rest with
    | some (v, rest) =>
        return (.char (Char.ofNat (0x10000 + (u - 0xD800) * 0x400 + (v - 0xDC00))), rest)
    | none => return (.half u (.inl high), rest)
  else if low : isLowUnit u = true then return (.half u (.inr low), rest)
  else return (.char (Char.ofNat u), rest)

/-- The letter at the front of a quoted text, and the text after it. -/
def quotedLetter? : List Char → Option (Letter × List Char)
  | '\\' :: 'u' :: a :: b :: c :: d :: rest => unitEscape? a b c d rest
  | '\\' :: c :: rest => (shortEscape? c).map (.char ·, rest)
  | c :: rest => if c.toNat < 0x20 ∨ c = '"' ∨ c = '\\' then none else some (.char c, rest)
  | [] => none

/-- Reads a quoted text after its opening quote, at most `fuel` letters of it. -/
def readQuoted : Nat → List Char → Except ReadError (Step (List Letter))
  | 0, _ => malformed
  | fuel + 1, cs =>
      match cs with
      | '"' :: rest => .ok ([], rest)
      | cs =>
          match quotedLetter? cs with
          | none => malformed
          | some (l, rest) => do
              let (more, rest) ← readQuoted fuel rest
              return (l :: more, rest)

/-- Reads a text after its opening quote. -/
def readText (cs : List Char) : Except ReadError (Step (List Letter)) :=
  readQuoted (cs.length + 1) cs

/-! ## Numbers -/

/-- Whether a character is one of the digits `0` to `9`. -/
def isDigit (c : Char) : Bool := (asciiDigit? c).isSome

/-- The value of digits. -/
def digitsValue (ds : List Char) : Nat :=
  ds.foldl (fun n c => n * 10 + (c.toNat - 0x30)) 0

/-- The digits before the point: a lone zero, or digits that do not start with one. -/
def wholeDigits (cs : List Char) : List Char :=
  match cs with
  | '0' :: _ => ['0']
  | cs => cs.takeWhile isDigit

/-- The digits after a point at the front of a text; none where no digit follows a point. -/
def fractionDigits : List Char → List Char
  | '.' :: cs => cs.takeWhile isDigit
  | _ => []

/-- The exponent at the front of a text and its length; none where no digit follows. -/
def exponent? : List Char → Option (Int × Nat)
  | c :: cs =>
      if c = 'e' ∨ c = 'E' then
        let (negative, body) := Numeral.sign cs
        let ds := body.takeWhile isDigit
        if ds.isEmpty then none
        else some (Numeral.signedValue negative (digitsValue ds),
          1 + (cs.length - body.length) + ds.length)
      else none
  | [] => none

/-- Reads a number. -/
def readNumber (cs : List Char) : Except ReadError (Step Number) :=
  let (negative, body) :=
    match cs with
    | '-' :: rest => (true, rest)
    | cs => (false, cs)
  let ds := wholeDigits body
  if ds.isEmpty then malformed
  else
    let rest := body.drop ds.length
    let fs := fractionDigits rest
    let rest := if fs.isEmpty then rest else rest.drop (fs.length + 1)
    match exponent? rest with
    | some (e, length) =>
        .ok (.double (.ofDecimal negative (digitsValue (ds ++ fs)) (e - fs.length)),
          rest.drop length)
    | none =>
        if fs.isEmpty then
          if ds.length ≤ Numeral.maxDigits then
            .ok (.whole (Numeral.signedValue negative (digitsValue ds)), rest)
          else .error (.wholeTooLong ds.length)
        else .ok (.double (.ofDecimal negative (digitsValue (ds ++ fs)) (-fs.length)), rest)

/-! ## Documents

An item starts where its list goes on, and every other step takes a character, so a fuel of twice
the length of the text does not run out. -/

mutual

/-- Reads a document that starts at the front of a text. -/
def readValue : Nat → List Char → Except ReadError (Step Raw)
  | 0, _ => malformed
  | fuel + 1, cs =>
      match cs with
      | '"' :: rest => do
          let (ls, rest) ← readText rest
          return (.str ls, rest)
      | '[' :: rest =>
          match skip rest with
          | ']' :: rest => .ok (.arr [], rest)
          | rest => do
              let (items, rest) ← readItems fuel rest
              return (.arr items, rest)
      | '{' :: rest =>
          match skip rest with
          | '}' :: rest => .ok (.obj [], rest)
          | rest => do
              let (pairs, rest) ← readEntries fuel rest
              return (.obj (ofPairs pairs), rest)
      | 'n' :: _ => readWord "null" .null cs
      | 't' :: _ => readWord "true" (.bool true) cs
      | 'f' :: _ => readWord "false" (.bool false) cs
      | 'N' :: _ => readWord "NaN" (.num (.double .nan)) cs
      | 'I' :: _ => readWord "Infinity" (.num (.double (.infinite false))) cs
      | '-' :: 'I' :: _ => readWord "-Infinity" (.num (.double (.infinite true))) cs
      | _ => do
          let (n, rest) ← readNumber cs
          return (.num n, rest)

/-- Reads the items of a list up to its end. -/
def readItems : Nat → List Char → Except ReadError (Step (List Raw))
  | 0, _ => malformed
  | fuel + 1, cs => do
      let (item, rest) ← readValue fuel cs
      match skip rest with
      | ',' :: rest =>
          let (items, rest) ← readItems fuel (skip rest)
          return (item :: items, rest)
      | ']' :: rest => return ([item], rest)
      | _ => malformed

/-- Reads the entries of a map up to its end. -/
def readEntries : Nat → List Char → Except ReadError (Step (List (List Letter × Raw)))
  | 0, _ => malformed
  | fuel + 1, cs =>
      match cs with
      | '"' :: rest => do
          let (key, rest) ← readText rest
          match skip rest with
          | ':' :: rest =>
              let (value, rest) ← readValue fuel (skip rest)
              match skip rest with
              | ',' :: rest =>
                  let (pairs, rest) ← readEntries fuel (skip rest)
                  return ((key, value) :: pairs, rest)
              | '}' :: rest => return ([(key, value)], rest)
              | _ => malformed
          | _ => malformed
      | _ => malformed

end

/-- The document that a text stands for, with blanks around it and nothing else. -/
def parse (cs : List Char) : Except ReadError Raw := do
  let (value, rest) ← readValue (2 * cs.length + 1) (skip cs)
  if (skip rest).isEmpty then return value else malformed

end ArchiveCensus.Json
