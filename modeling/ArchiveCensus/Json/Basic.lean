import ArchiveCensus.Number.Basic

/-!
# Json/Basic — documents

A document is null, a truth value, a number, a text, a list, or a map.  The entries of a map keep
the order in which their keys first came, since texts made of a map show it; `ofPairs` builds
entries with each key once, the last value for a key taking the place of the first.  It builds them
of any keys and values: those that a reader finds are not documents yet.
-/

namespace ArchiveCensus

/-- A document. -/
inductive Json where
  | null
  | bool (b : Bool)
  | num (n : Number)
  | str (s : String)
  | arr (items : List Json)
  | obj (entries : List (String × Json))
  deriving Inhabited

namespace Json

/-- A whole number as a document. -/
def int (z : Int) : Json := .num (.whole z)

/-- A double as a document. -/
def double (x : Binary64) : Json := .num (.double x)

/-- A list of texts as a document. -/
def texts (ss : List String) : Json := .arr (ss.map .str)

/-! ## Entries -/

section

variable {κ ν : Type} [DecidableEq κ]

/-- Sets the value of a key: in place where the key has one, at the end where it has none. -/
def put (key : κ) (value : ν) : List (κ × ν) → List (κ × ν)
  | [] => [(key, value)]
  | (k, v) :: rest => if k = key then (k, value) :: rest else (k, v) :: put key value rest

/-- The entries of pairs in their order, each key once and with its last value. -/
def ofPairs (pairs : List (κ × ν)) : List (κ × ν) :=
  pairs.foldl (fun entries (key, value) => put key value entries) []

end

/-- The value of a key among entries; null where the key has none. -/
def valueOf (key : String) : List (String × Json) → Json
  | [] => .null
  | (k, v) :: rest => if k = key then v else valueOf key rest

/-- Setting the value of a key does not touch the others. -/
theorem valueOf_put (key key' : String) (value : Json) :
    ∀ entries, valueOf key' (put key value entries) =
      if key = key' then value else valueOf key' entries
  | [] => by simp [put, valueOf]
  | (k, v) :: rest => by
      by_cases hk : k = key
      · by_cases h : key = key' <;> simp [put, valueOf, hk, h]
      · by_cases hk' : k = key'
        · have h : key ≠ key' := fun e => hk (hk'.trans e.symm)
          simp [put, valueOf, hk', h, Ne.symm h]
        · simp [put, valueOf, hk, hk', valueOf_put key key' value rest]

/-! ## The kinds -/

/-- The name of the kind of a document. -/
def kindName : Json → String
  | .null => "NoneType"
  | .bool _ => "bool"
  | .num (.whole _) => "int"
  | .num (.double _) => "float"
  | .str _ => "str"
  | .arr _ => "list"
  | .obj _ => "dict"

/-- Whether a document counts as given: not null, false, zero, or empty. -/
def isGiven : Json → Bool
  | .null => false
  | .bool b => b
  | .num n => !n.isZero
  | .str s => !s.isEmpty
  | .arr items => !items.isEmpty
  | .obj entries => !entries.isEmpty

end Json

end ArchiveCensus
