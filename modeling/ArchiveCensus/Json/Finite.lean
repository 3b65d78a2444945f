import ArchiveCensus.Json.Basic

/-!
# Json/Finite — documents that can be sent

JSON has no words for infinities and for what is not a number, so a document can be sent only if
every number in it is finite.
-/

namespace ArchiveCensus.Json

mutual

/-- Whether every number of a document is finite. -/
def isFinite : Json → Bool
  | .num (.double x) => x.isFinite
  | .arr items => itemsFinite items
  | .obj entries => entriesFinite entries
  | _ => true

/-- Whether every number of some items is finite. -/
def itemsFinite : List Json → Bool
  | [] => true
  | j :: rest => isFinite j && itemsFinite rest

/-- Whether every number of some entries is finite. -/
def entriesFinite : List (String × Json) → Bool
  | [] => true
  | (_, j) :: rest => isFinite j && entriesFinite rest

end

end ArchiveCensus.Json
