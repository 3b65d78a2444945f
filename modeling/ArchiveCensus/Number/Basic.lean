import ArchiveCensus.Number.Shortest

/-!
# Number/Basic — whole numbers and doubles side by side

A number of a document or a clock is either whole, of any size, or a double, and the difference is
kept: arithmetic on whole numbers stays whole, and a double on either side makes the answer a
double.  Comparisons are exact, without converting either side; a sum or a product with a double
needs both sides as doubles, which a whole number may be too large for.
-/

namespace ArchiveCensus

/-- A whole number or a double. -/
inductive Number where
  | whole (z : Int)
  | double (x : Binary64)
  deriving DecidableEq, Repr, Inhabited

namespace Number

instance (n : Nat) : OfNat Number n := ⟨.whole n⟩

/-- The nearest double. -/
def toDouble : Number → Binary64
  | .whole z => .ofInt z
  | .double x => x

/-- The number as a double; none for a whole number beyond the doubles. -/
def asDouble? : Number → Option Binary64
  | .whole z => if (Binary64.ofInt z).isFinite then some (.ofInt z) else none
  | .double x => some x

/-- The sum. -/
def add? : Number → Number → Option Number
  | .whole a, .whole b => some (.whole (a + b))
  | a, b => do return .double ((← a.asDouble?).add (← b.asDouble?))

/-- The difference. -/
def sub? : Number → Number → Option Number
  | .whole a, .whole b => some (.whole (a - b))
  | a, b => do return .double ((← a.asDouble?).sub (← b.asDouble?))

/-- The product. -/
def mul? : Number → Number → Option Number
  | .whole a, .whole b => some (.whole (a * b))
  | a, b => do return .double ((← a.asDouble?).mul (← b.asDouble?))

@[simp] theorem whole_mul?_whole (a b : Int) :
    (whole a).mul? (.whole b) = some (.whole (a * b)) := rfl

/-- A double is multiplied by what the other number is as a double. -/
theorem double_mul? (x : Binary64) (b : Number) :
    (double x).mul? b = b.asDouble?.map fun y => .double (x.mul y) := by
  rw [mul?]
  · rw [Option.map_eq_bind]
    rfl
  · nofun

/-- Whether a number is zero, of either kind and sign. -/
def isZero : Number → Bool
  | .whole z => z == 0
  | .double x => x.isZero

/-! ## Order -/

/-- The place of a number on the extended line. -/
def place? : Number → Option Binary64.Place
  | .whole z => some (.at (z * Binary64.unitsPerOne))
  | .double x => x.place?

/-- Whether one number is less than another; false where either is `nan`. -/
def before (a b : Number) : Bool :=
  match a.place?, b.place? with
  | some p, some q => p.before q
  | _, _ => false

/-- Whether one number is at most another; false where either is `nan`. -/
def upTo (a b : Number) : Bool :=
  match a.place?, b.place? with
  | some p, some q => !q.before p
  | _, _ => false

instance : LT Number := ⟨fun a b => a.before b = true⟩
instance : LE Number := ⟨fun a b => a.upTo b = true⟩

instance : DecidableLT Number := fun a b => inferInstanceAs (Decidable (a.before b = true))
instance : DecidableLE Number := fun a b => inferInstanceAs (Decidable (a.upTo b = true))

/-- The lesser of two numbers; the first where neither is less. -/
instance : Min Number := ⟨fun a b => if b < a then b else a⟩

/-- The greater of two numbers; the first where neither is greater. -/
instance : Max Number := ⟨fun a b => if a < b then b else a⟩

/-! ## Text -/

/-- The decimal text of a whole number. -/
def wholeText (z : Int) : List Char :=
  if z < 0 then '-' :: Binary64.digitsOf z.natAbs else Binary64.digitsOf z.natAbs

/-- The text of a number: a whole number in decimal, a double by its shortest digits. -/
def text (words : Binary64.Words) : Number → List Char
  | .whole z => wholeText z
  | .double x => (x.text words).toList

end Number

end ArchiveCensus
