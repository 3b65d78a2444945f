/-!
# Text/Digit — the decimal digits of every script

A decimal digit is a character of the general category `Nd`; the standard lays the ten digits of a
script in one ascending run, so a script is known by its zero.  `digit?` reads the value of a digit,
`asciiDigit?` that of `0` to `9` alone; the two agree where both answer (`digit?_of_asciiDigit?`).
-/

namespace ArchiveCensus.Text

/-- The code points of the zeros, in ascending order; the other nine digits follow each. -/
def zeros : List Nat :=
  [0x30, 0x660, 0x6F0, 0x7C0, 0x966, 0x9E6, 0xA66, 0xAE6, 0xB66, 0xBE6, 0xC66, 0xCE6, 0xD66, 0xDE6,
   0xE50, 0xED0, 0xF20, 0x1040, 0x1090, 0x17E0, 0x1810, 0x1946, 0x19D0, 0x1A80, 0x1A90, 0x1B50,
   0x1BB0, 0x1C40, 0x1C50, 0xA620, 0xA8D0, 0xA900, 0xA9D0, 0xA9F0, 0xAA50, 0xABF0, 0xFF10, 0x104A0,
   0x10D30, 0x11066, 0x110F0, 0x11136, 0x111D0, 0x112F0, 0x11450, 0x114D0, 0x11650, 0x116C0,
   0x11730, 0x118E0, 0x11950, 0x11C50, 0x11D50, 0x11DA0, 0x16A60, 0x16AC0, 0x16B50, 0x1D7CE,
   0x1D7D8, 0x1D7E2, 0x1D7EC, 0x1D7F6, 0x1E140, 0x1E2F0, 0x1E950, 0x1FBF0]

/-- The value of a digit among the runs that start at `zs`. -/
def digitAmong? (n : Nat) : List Nat → Option Nat
  | [] => none
  | z :: zs => if n < z then none else if n < z + 10 then some (n - z) else digitAmong? n zs

/-- The value of a decimal digit of any script. -/
def digit? (c : Char) : Option Nat :=
  digitAmong? c.toNat zeros

/-- The value of one of the digits `0` to `9`. -/
def asciiDigit? (c : Char) : Option Nat :=
  if 0x30 ≤ c.toNat ∧ c.toNat < 0x3A then some (c.toNat - 0x30) else none

/-- The character of a digit below ten. -/
def digitChar (d : Nat) : Char :=
  Char.ofNat (0x30 + d)

/-- **A digit is below ten.** -/
theorem digitAmong?_lt {n d : Nat} : ∀ {zs : List Nat}, digitAmong? n zs = some d → d < 10
  | [], h => by simp [digitAmong?] at h
  | z :: zs, h => by
      rw [digitAmong?] at h
      split at h
      · cases h
      · split at h
        · cases h; omega
        · exact digitAmong?_lt h

theorem digit?_lt {c : Char} {d : Nat} (h : digit? c = some d) : d < 10 :=
  digitAmong?_lt h

/-- The digits of ASCII are decimal digits, with the same value. -/
theorem digit?_of_asciiDigit? {c : Char} {d : Nat} (h : asciiDigit? c = some d) :
    digit? c = some d := by
  unfold asciiDigit? at h
  split at h
  · rename_i hc
    cases h
    have h1 : ¬ c.toNat < 0x30 := by omega
    have h2 : c.toNat < 0x30 + 10 := by omega
    simp only [digit?, zeros, digitAmong?, h1, h2, if_true, if_false]
  · cases h

end ArchiveCensus.Text
