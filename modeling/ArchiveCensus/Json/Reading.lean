import ArchiveCensus.Text.Blank
import ArchiveCensus.Number.Numeral
import ArchiveCensus.Json.Basic

/-!
# Json/Reading — documents read without failing

Index documents are not consistent: a value may be missing, of another kind, or damaged.  Each
reading here answers for every document, and what cannot be read is absent — no entries, no items,
an empty text, zero.
-/

namespace ArchiveCensus.Json

/-! ## Parts -/

/-- The entries of a map; none for any other document. -/
def entries : Json → List (String × Json)
  | .obj entries => entries
  | _ => []

/-- The value of a key of a map; null where there is none. -/
def get (j : Json) (key : String) : Json :=
  valueOf key j.entries

/-- The value reached by a path of keys. -/
def follow (j : Json) (path : List String) : Json :=
  path.foldl get j

/-- The items of a repeated element: those of a list, a single map by itself, none otherwise. -/
def repeated : Json → List Json
  | .arr items => items
  | .obj entries => [.obj entries]
  | _ => []

/-! ## Values -/

/-- The trimmed text of a document that is a text; empty otherwise. -/
def label : Json → String
  | .str s => Text.trim s
  | _ => ""

/-- A double if it is finite, and zero otherwise. -/
def finiteOrZero (x : Binary64) : Binary64 :=
  if x.isFinite then x else .zero

/-- The measure of a document: a number or the text of one, as the nearest finite double; zero for
all else. -/
def measure : Json → Binary64
  | .num n => finiteOrZero n.toDouble
  | .str s =>
      match Numeral.decimalNumber? (Text.strip Text.isPadding s.toList) with
      | some x => finiteOrZero x
      | none => .zero
  | _ => .zero

/-- The whole part of the measure of a document. -/
def wholeMeasure (j : Json) : Int :=
  j.measure.wholePart

/-- The labels of a document: a text by itself, or the texts of a list, without the empty ones. -/
def labels : Json → List String
  | .str s => [Text.trim s].filter (!·.isEmpty)
  | .arr items => (items.map label).filter (!·.isEmpty)
  | _ => []

/-- How many things a document holds: the items of a list, the entries of a map, one for a text that
is not blank. -/
def size : Json → Nat
  | .arr items => items.length
  | .obj entries => entries.length
  | .str s => if (Text.trim s).isEmpty then 0 else 1
  | _ => 0

/-! ## What is absent -/

@[simp] theorem entries_obj (es : List (String × Json)) : (obj es).entries = es := rfl

@[simp] theorem get_null (key : String) : null.get key = .null := rfl

@[simp] theorem repeated_obj (es : List (String × Json)) : (obj es).repeated = [obj es] := rfl

@[simp] theorem repeated_arr (items : List Json) : (arr items).repeated = items := rfl

@[simp] theorem follow_nil (j : Json) : j.follow [] = j := rfl

@[simp] theorem follow_cons (j : Json) (key : String) (path : List String) :
    j.follow (key :: path) = (j.get key).follow path := rfl

/-- **A measure is always finite.** -/
theorem isFinite_measure (j : Json) : j.measure.isFinite = true := by
  have h : ∀ x : Binary64, (finiteOrZero x).isFinite = true := by
    intro x; cases x <;> rfl
  unfold measure
  split
  · exact h _
  · split
    · exact h _
    · rfl
  · rfl

end ArchiveCensus.Json
