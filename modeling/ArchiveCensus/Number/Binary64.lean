/-!
# Number/Binary64 — double-precision numbers, exactly

Every finite double is a whole multiple of the least positive one, 2⁻¹⁰⁷⁴.  A finite double is
therefore kept as a sign and a number of these *units*, and every operation is the exact operation
on units followed by one rounding:

* `roundUnits` — the nearest number of units with at most 53 significant bits, a half going to the
  even neighbour;
* `ofUnits` — the double nearest to a quotient of units, infinite from 2¹⁰²⁴ on.

No runtime floating-point operation is involved, so everything here can be computed in a proof.
-/

namespace ArchiveCensus

/-- A double: a sign and a number of units of 2⁻¹⁰⁷⁴, an infinity, or not a number.  The sign of
zero is kept. -/
inductive Binary64 where
  | finite (negative : Bool) (units : Nat)
  | infinite (negative : Bool)
  | nan
  deriving DecidableEq, Repr, Inhabited

namespace Binary64

/-! ## Rounding -/

/-- How many units make one. -/
def unitsPerOne : Nat := Nat.pow 2 1074

/-- The least number of units, 2¹⁰²⁴, that is too large for a finite double. -/
def unitsLimit : Nat := Nat.pow 2 2098

/-- The whole number nearest to a quotient, a half going to the even neighbour. -/
def roundHalfEven (num den : Nat) : Nat :=
  let q := num / den
  let r := num % den
  if 2 * r < den then q
  else if den < 2 * r then q + 1
  else if q % 2 = 0 then q
  else q + 1

/-- The distance between neighbouring doubles around `n` units: one unit up to 2⁵³, then the power
of two that leaves 53 significant bits. -/
def gridStep (n : Nat) : Nat :=
  Nat.pow 2 (n.log2 - 52)

/-- The number of units of the double nearest to a quotient of units. -/
def roundUnits (num den : Nat) : Nat :=
  let step := gridStep (num / den)
  roundHalfEven num (den * step) * step

/-- The double nearest to a quotient of units. -/
def ofUnits (negative : Bool) (num den : Nat) : Binary64 :=
  let units := roundUnits num den
  if units < unitsLimit then .finite negative units else .infinite negative

/-- The double nearest to `n / d`. -/
def ofQuotient (n : Int) (d : Nat) : Binary64 :=
  ofUnits (n < 0) (n.natAbs * unitsPerOne) d

/-- The double nearest to a whole number. -/
def ofInt (z : Int) : Binary64 :=
  ofQuotient z 1

/-- The double nearest to `±digits · 10^exponent`.  Exponents so far out that the answer is infinite
or zero are answered without computing the power. -/
def ofDecimal (negative : Bool) (digits : Nat) (exponent : Int) : Binary64 :=
  if digits = 0 then .finite negative 0
  else
    match exponent with
    | .ofNat e =>
        if e > 400 then .infinite negative
        else ofUnits negative (digits * Nat.pow 10 e * unitsPerOne) 1
    | .negSucc e =>
        if digits.log2 + 1 + 1080 ≤ 3 * (e + 1) then .finite negative 0
        else ofUnits negative (digits * unitsPerOne) (Nat.pow 10 (e + 1))

/-- Positive zero. -/
def zero : Binary64 := .finite false 0

@[simp] theorem roundHalfEven_one (n : Nat) : roundHalfEven n 1 = n := by
  simp [roundHalfEven, Nat.mod_one]

/-! ## Order

Every double but `nan` has a place on one line; a comparison with `nan` is false. -/

/-- A place on the extended line, in units. -/
inductive Place where
  | below
  | at (units : Int)
  | above
  deriving DecidableEq, Repr

/-- Whether one place lies before another. -/
def Place.before : Place → Place → Bool
  | .below, .below => false
  | .below, _ => true
  | .at _, .below => false
  | .at a, .at b => a < b
  | .at _, .above => true
  | .above, _ => false

/-- The signed number of units of a sign and a magnitude. -/
def signed (negative : Bool) (units : Nat) : Int :=
  if negative then -(units : Int) else units

/-- The place of a double; `nan` has none. -/
def place? : Binary64 → Option Place
  | .finite s u => some (.at (signed s u))
  | .infinite true => some .below
  | .infinite false => some .above
  | .nan => none

/-- Whether a double is a number of finite size. -/
def isFinite : Binary64 → Bool
  | .finite .. => true
  | _ => false

/-- Whether a double equals zero, of either sign. -/
def isZero : Binary64 → Bool
  | .finite _ u => u == 0
  | _ => false

/-! ## Arithmetic -/

/-- The double with the sign turned. -/
def neg : Binary64 → Binary64
  | .finite s u => .finite (!s) u
  | .infinite s => .infinite (!s)
  | .nan => .nan

/-- The nearest double to a signed number of units; an exact zero is negative only when `zeroSign`
says so. -/
def ofSigned (zeroSign : Bool) (units : Int) : Binary64 :=
  if units = 0 then .finite zeroSign 0 else ofUnits (units < 0) units.natAbs 1

/-- The sum, rounded once.  Opposite infinities have none. -/
def add : Binary64 → Binary64 → Binary64
  | .nan, _ | _, .nan => .nan
  | .infinite s, .infinite t => if s = t then .infinite s else .nan
  | .infinite s, .finite .. => .infinite s
  | .finite .., .infinite t => .infinite t
  | .finite s u, .finite t v => ofSigned (s && t) (signed s u + signed t v)

/-- The difference, rounded once. -/
def sub (x y : Binary64) : Binary64 :=
  add x y.neg

/-- The product, rounded once.  Zero times an infinity has none. -/
def mul : Binary64 → Binary64 → Binary64
  | .nan, _ | _, .nan => .nan
  | .infinite s, .infinite t => .infinite (s != t)
  | .infinite s, .finite t v => if v = 0 then .nan else .infinite (s != t)
  | .finite s u, .infinite t => if u = 0 then .nan else .infinite (s != t)
  | .finite s u, .finite t v => ofUnits (s != t) (u * v) unitsPerOne

/-- The quotient by a whole number other than zero, rounded once. -/
def divNat : Binary64 → Nat → Binary64
  | .nan, _ => .nan
  | .infinite s, _ => .infinite s
  | .finite s u, d => ofUnits s u d

/-! ## Whole parts -/

/-- Why a double has no whole part. -/
inductive NoWholePart where
  | infinite
  | nan
  deriving DecidableEq, Repr

/-- The whole number left when the fraction is cut off. -/
def truncate : Binary64 → Except NoWholePart Int
  | .finite s u => .ok (signed s (u / unitsPerOne))
  | .infinite _ => .error .infinite
  | .nan => .error .nan

/-- The whole part of a finite double; zero for the others. -/
def wholePart : Binary64 → Int
  | .finite s u => signed s (u / unitsPerOne)
  | _ => 0

/-- The fraction of a finite double, with its sign. -/
def fraction : Binary64 → Binary64
  | .finite s u => .finite s (u % unitsPerOne)
  | x => x

/-- The whole number nearest to a finite double, a half going to the even neighbour. -/
def nearestWhole : Binary64 → Int
  | .finite s u => signed s (roundHalfEven u unitsPerOne)
  | _ => 0

end Binary64

end ArchiveCensus
