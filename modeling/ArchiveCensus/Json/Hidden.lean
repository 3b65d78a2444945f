import ArchiveCensus.Json.Basic

/-!
# Json/Hidden — documents without the entries that are kept back

Some keys are for the inside of a service only.  The entry of such a key is left out of a document
at every depth, with all that is in it; everything else stays, in its order.
-/

namespace ArchiveCensus.Json

variable (hidden : String → Bool)

mutual

/-- A document without the entries of hidden keys. -/
def withoutKeys : Json → Json
  | .arr items => .arr (itemsWithoutKeys items)
  | .obj entries => .obj (entriesWithoutKeys entries)
  | j => j

/-- Each of some items without the entries of hidden keys. -/
def itemsWithoutKeys : List Json → List Json
  | [] => []
  | j :: rest => withoutKeys j :: itemsWithoutKeys rest

/-- Some entries without those of hidden keys, at this depth and further in. -/
def entriesWithoutKeys : List (String × Json) → List (String × Json)
  | [] => []
  | (k, j) :: rest =>
      if hidden k then entriesWithoutKeys rest
      else (k, withoutKeys j) :: entriesWithoutKeys rest

end

/-- **No hidden key is left among entries.** -/
theorem not_hidden_of_mem_entriesWithoutKeys {k : String} {j : Json} :
    ∀ {entries : List (String × Json)}, (k, j) ∈ entriesWithoutKeys hidden entries →
      hidden k = false
  | [], h => by simp [entriesWithoutKeys] at h
  | (k', j') :: rest, h => by
      rw [entriesWithoutKeys] at h
      split at h
      · exact not_hidden_of_mem_entriesWithoutKeys h
      · rename_i hk
        rcases List.mem_cons.1 h with h | h
        · cases h; simpa using hk
        · exact not_hidden_of_mem_entriesWithoutKeys h

end ArchiveCensus.Json
