import Mathlib.Data.List.Basic
import ArchiveCensus.Json.Raw

/-!
# Proofs/Json/Raw — documents among raw documents

* `Raw.toJson?_eq_some_iff` — a raw document is a document exactly where it is the raw form of one.
* `Raw.itemsToJson?_eq_some_iff` — and so it is with items.

Both directions go through the three kinds of parts together, as the recursion of `toJson?` does.
-/

namespace ArchiveCensus.Json

/-! ## Texts -/

namespace Letter

theorem ofText_injective : Function.Injective ofText := fun _ _ h =>
  String.toList_inj.1 (List.map_injective_iff.2 (fun _ _ hc => Letter.char.inj hc) h)

theorem mapM_char?_eq_some_iff :
    ∀ {ls : List Letter} {cs : List Char}, ls.mapM char? = some cs ↔ ls = cs.map .char
  | [], cs => by simp [eq_comm]
  | .char c :: ls, cs => by
      simp only [List.mapM_cons, char?, Option.bind_eq_bind, Option.bind_some,
        Option.bind_eq_some_iff, mapM_char?_eq_some_iff]
      cases cs <;> simp [and_comm]
  | .half .. :: ls, cs => by
      cases cs <;> simp [List.mapM_cons, char?]

/-- **Letters are a text exactly where all of them are characters.** -/
theorem toText?_eq_some_iff {ls : List Letter} {s : String} :
    toText? ls = some s ↔ ls = ofText s := by
  simp only [toText?, Option.map_eq_some_iff, mapM_char?_eq_some_iff, ofText]
  constructor
  · rintro ⟨cs, rfl, rfl⟩
    rw [String.toList_ofList]
  · rintro rfl
    exact ⟨s.toList, rfl, String.ofList_toList⟩

end Letter

namespace Raw

/-! ## Documents -/

theorem entriesOfJson_eq : ∀ es : List (String × Json),
    entriesOfJson es = es.map fun e => (Letter.ofText e.1, ofJson e.2)
  | [] => rfl
  | (k, j) :: rest => by rw [entriesOfJson, entriesOfJson_eq rest, List.map_cons]

mutual

/-- **A raw document is a document exactly where it is the raw form of one.** -/
theorem toJson?_eq_some_iff : ∀ {r : Raw} {j : Json}, toJson? r = some j ↔ r = ofJson j
  | .null, j => by cases j <;> simp [toJson?, ofJson]
  | .bool b, j => by cases j <;> simp [toJson?, ofJson]
  | .num n, j => by cases j <;> simp [toJson?, ofJson]
  | .str ls, j => by cases j <;> simp [toJson?, ofJson, Letter.toText?_eq_some_iff]
  | .arr items, j => by cases j <;> simp [toJson?, ofJson, itemsToJson?_eq_some_iff]
  | .obj entries, j => by cases j <;> simp [toJson?, ofJson, entriesToJson?_eq_some_iff]

/-- Items are documents exactly where they are the raw forms of these. -/
theorem itemsToJson?_eq_some_iff : ∀ {rs : List Raw} {js : List Json},
    itemsToJson? rs = some js ↔ rs = itemsOfJson js
  | [], js => by cases js <;> simp [itemsToJson?, itemsOfJson]
  | r :: rest, js => by
      cases js <;> simp [itemsToJson?, itemsOfJson, Option.bind_eq_some_iff,
        toJson?_eq_some_iff, itemsToJson?_eq_some_iff]

/-- Entries are those of documents exactly where they are the raw forms of these. -/
theorem entriesToJson?_eq_some_iff : ∀ {rs : List (List Letter × Raw)} {es : List (String × Json)},
    entriesToJson? rs = some es ↔ rs = entriesOfJson es
  | [], es => by cases es <;> simp [entriesToJson?, entriesOfJson]
  | (k, r) :: rest, es => by
      rcases es with _ | ⟨⟨k', j⟩, es⟩ <;> simp [entriesToJson?, entriesOfJson,
        Option.bind_eq_some_iff, Letter.toText?_eq_some_iff, toJson?_eq_some_iff,
        entriesToJson?_eq_some_iff, and_assoc]

end

end Raw

end ArchiveCensus.Json
