/-!
# Text/Base64Url — bytes as URL-safe text, without padding

Three bytes are written as four symbols of six bits; a last group of one or two bytes is written as
two or three symbols, and no `=` follows.

* `encode` writes bytes.
* `decode?` reads them back.  It refuses a symbol outside the alphabet and a lone last symbol; the
  bits of a last symbol beyond its byte are ignored.
-/

namespace ArchiveCensus.Text.Base64Url

/-! ## The alphabet -/

/-- The symbol of a six-bit value: `A`–`Z`, `a`–`z`, `0`–`9`, `-`, `_`. -/
def symbol (v : Nat) : Char :=
  if v < 26 then Char.ofNat (0x41 + v)
  else if v < 52 then Char.ofNat (0x61 + (v - 26))
  else if v < 62 then Char.ofNat (0x30 + (v - 52))
  else if v = 62 then '-' else '_'

/-- The six-bit value of a symbol. -/
def value? (c : Char) : Option Nat :=
  let n := c.toNat
  if 0x41 ≤ n ∧ n ≤ 0x5A then some (n - 0x41)
  else if 0x61 ≤ n ∧ n ≤ 0x7A then some (n - 0x61 + 26)
  else if 0x30 ≤ n ∧ n ≤ 0x39 then some (n - 0x30 + 52)
  else if c = '-' then some 62
  else if c = '_' then some 63
  else none

/-- **The alphabet is read as it is written.** -/
theorem value?_symbol : ∀ {v : Nat}, v < 64 → value? (symbol v) = some v := by
  decide

/-! ## Groups -/

/-- The byte a number stands for, modulo 256. -/
def byte (n : Nat) : UInt8 := UInt8.ofNat n

/-- Writes bytes, three at a time. -/
def encode : List UInt8 → List Char
  | a :: b :: c :: rest =>
      let n := a.toNat * 65536 + b.toNat * 256 + c.toNat
      symbol (n / 262144) :: symbol (n / 4096 % 64) :: symbol (n / 64 % 64) :: symbol (n % 64) ::
        encode rest
  | [a, b] =>
      let n := a.toNat * 256 + b.toNat
      [symbol (n / 1024), symbol (n / 16 % 64), symbol (n % 16 * 4)]
  | [a] => [symbol (a.toNat / 4), symbol (a.toNat % 4 * 16)]
  | [] => []

/-- Reads symbols, four at a time. -/
def decode? : List Char → Option (List UInt8)
  | a :: b :: c :: d :: rest => do
      let n := (← value? a) * 262144 + (← value? b) * 4096 + (← value? c) * 64 + (← value? d)
      return byte (n / 65536) :: byte (n / 256 % 256) :: byte (n % 256) :: (← decode? rest)
  | [a, b, c] => do
      let n := (← value? a) * 4096 + (← value? b) * 64 + (← value? c)
      return [byte (n / 1024), byte (n / 4 % 256)]
  | [a, b] => do
      let n := (← value? a) * 64 + (← value? b)
      return [byte (n / 16)]
  | [_] => none
  | [] => some []

@[simp] theorem encode_nil : encode [] = [] := rfl

@[simp] theorem decode?_nil : decode? [] = some [] := rfl

end ArchiveCensus.Text.Base64Url
