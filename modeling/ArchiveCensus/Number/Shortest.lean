import ArchiveCensus.Number.Binary64

/-!
# Number/Shortest — doubles as text

A double is written with the fewest decimal digits that read back as the same double, and of those
with the digits nearest to it:

* `bounds` — the numbers that round to a double, as an interval;
* `shortest?` — the point of the coarsest decimal grid that lies in the interval;
* `Binary64.text` — the digits with a point, or with an exponent when the first digit stands below
  10⁻⁴ or at 10¹⁶ and beyond.
-/

namespace ArchiveCensus.Binary64

/-! ## The interval of a double

Half a step between doubles, and a quarter below a power of two, are whole numbers of quarter
units. -/

/-- An interval of quarter units, and whether its ends belong to it. -/
structure Bounds where
  low : Nat
  high : Nat
  closed : Bool

/-- The numbers that round to the double of `n` units, for `n` other than zero.  Below a power of
two the neighbours lie closer.  The ends round to the even neighbour. -/
def bounds (n : Nat) : Bounds :=
  let step := gridStep n
  let below := if n / step = Nat.pow 2 52 ∧ step ≠ 1 then step else 2 * step
  ⟨4 * n - below, 4 * n + 2 * step, n / step % 2 = 0⟩

/-- Whether `k / d` quarter units lie in an interval. -/
def Bounds.holds (b : Bounds) (k d : Nat) : Bool :=
  if b.closed then b.low * d ≤ k && k ≤ b.high * d else b.low * d < k && k < b.high * d

/-! ## The digits -/

/-- Whether the lower of two neighbours `k` and `k + 1` is the one to take, by their distances; of
two equal distances the even neighbour wins. -/
def nearerLow (toLow toHigh k : Nat) : Bool :=
  toLow < toHigh || (toLow == toHigh && k % 2 == 0)

/-- The point nearest to `n` units among the two neighbours of `n` on the grid of spacing `10^place`
that lie in the interval, as a multiple of the spacing. -/
def gridPoint? (n : Nat) (b : Bounds) (place : Int) : Option Nat :=
  let spacing := Nat.pow 10 place.toNat * (4 * unitsPerOne)
  let scale := Nat.pow 10 (-place).toNat
  let target := 4 * n * scale
  let k := target / spacing
  let lowHolds := k ≠ 0 && b.holds (k * spacing) scale
  let highHolds := b.holds ((k + 1) * spacing) scale
  if lowHolds && (!highHolds || nearerLow (target - k * spacing) ((k + 1) * spacing - target) k)
  then some k
  else if highHolds then some (k + 1)
  else none

/-- Digits and the decimal place of the last of them. -/
structure Decimal where
  digits : Nat
  place : Int
  deriving DecidableEq, Repr

/-- Looks for a grid point from `place` downwards, on `fuel` grids at most. -/
def searchGrids (n : Nat) (b : Bounds) (place : Int) : Nat → Option Decimal
  | 0 => none
  | fuel + 1 =>
      match gridPoint? n b place with
      | some k => some ⟨k, place⟩
      | none => searchGrids n b (place - 1) fuel

/-- A decimal place above the first digit of `n` units: 30103/100000 is just above the logarithm of
two. -/
def topPlace (n : Nat) : Int :=
  ((n.log2 : Int) - 1073) * 30103 / 100000 + 1

/-- The shortest decimal that rounds to the double of `n` units, for `n` other than zero.  Seventeen
digits always do, so the search ends well within its twenty-four grids. -/
def shortest? (n : Nat) : Option Decimal :=
  searchGrids n (bounds n) (topPlace n) 24

/-! ## The text -/

/-- The decimal digits of a number, the most significant first. -/
def digitsOf (n : Nat) : List Char :=
  Nat.toDigits 10 n

/-- A decimal exponent: its sign, and two digits at least. -/
def exponentText (e : Int) : List Char :=
  let ds := digitsOf e.natAbs
  (if e < 0 then '-' else '+') :: (if ds.length < 2 then '0' :: ds else ds)

/-- The text of digits whose decimal point stands after the first `point` of them. -/
def placePoint (ds : List Char) (point : Int) : List Char :=
  if point < -3 || 16 < point then
    match ds with
    | [] => []
    | [d] => d :: 'e' :: exponentText (point - 1)
    | d :: rest => d :: '.' :: rest ++ 'e' :: exponentText (point - 1)
  else if point ≤ 0 then '0' :: '.' :: List.replicate (-point).toNat '0' ++ ds
  else
    let n := point.toNat
    if ds.length ≤ n then ds ++ List.replicate (n - ds.length) '0' ++ ['.', '0']
    else ds.take n ++ '.' :: ds.drop n

/-- The text of a magnitude in units. -/
def magnitudeText (n : Nat) : List Char :=
  if n = 0 then ['0', '.', '0']
  else
    match shortest? n with
    | none => []
    | some d =>
        let ds := digitsOf d.digits
        placePoint ds (d.place + ds.length)

/-- The words for the doubles that have no digits. -/
structure Words where
  infinity : String
  minusInfinity : String
  nan : String

/-- The text of a double. -/
def text (words : Words) : Binary64 → String
  | .finite s u => String.ofList (if s then '-' :: magnitudeText u else magnitudeText u)
  | .infinite false => words.infinity
  | .infinite true => words.minusInfinity
  | .nan => words.nan

end ArchiveCensus.Binary64
