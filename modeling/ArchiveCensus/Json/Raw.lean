import ArchiveCensus.Json.Basic

/-!
# Json/Raw — documents as they are read

An escape of JSON names a unit of sixteen bits, and nothing keeps it from being one half of a
surrogate pair without the other.  Such a half is no character.  So what is read is a document whose
texts are lists of letters: characters, and halves that stand alone.

* `Letter` is a character or a half.
* `Raw` is a document of such texts.
* `Raw.ofJson` and `Raw.toJson?` lead from documents to these and back: a document is a raw document
  without halves.
-/

namespace ArchiveCensus.Json

/-! ## Letters -/

/-- Whether a unit is the first half of a surrogate pair. -/
def isHighUnit (u : Nat) : Bool := 0xD800 ≤ u && u ≤ 0xDBFF

/-- Whether a unit is the second half of a surrogate pair. -/
def isLowUnit (u : Nat) : Bool := 0xDC00 ≤ u && u ≤ 0xDFFF

/-- A part of a text: a character, or one half of a surrogate pair. -/
inductive Letter where
  | char (c : Char)
  | half (unit : Nat) (isHalf : isHighUnit unit = true ∨ isLowUnit unit = true)
  deriving DecidableEq

namespace Letter

/-- The character that a letter is. -/
def char? : Letter → Option Char
  | .char c => some c
  | .half .. => none

/-- The letters of a text. -/
def ofText (s : String) : List Letter := s.toList.map .char

/-- The text of some letters, where all of them are characters. -/
def toText? (ls : List Letter) : Option String := (ls.mapM char?).map String.ofList

end Letter

/-! ## Documents -/

/-- A document whose texts may hold halves of surrogate pairs. -/
inductive Raw where
  | null
  | bool (b : Bool)
  | num (n : Number)
  | str (ls : List Letter)
  | arr (items : List Raw)
  | obj (entries : List (List Letter × Raw))

namespace Raw

mutual

/-- A document as it is read. -/
def ofJson : Json → Raw
  | .null => .null
  | .bool b => .bool b
  | .num n => .num n
  | .str s => .str (Letter.ofText s)
  | .arr items => .arr (itemsOfJson items)
  | .obj entries => .obj (entriesOfJson entries)

/-- Some items as they are read. -/
def itemsOfJson : List Json → List Raw
  | [] => []
  | j :: rest => ofJson j :: itemsOfJson rest

/-- Some entries as they are read. -/
def entriesOfJson : List (String × Json) → List (List Letter × Raw)
  | [] => []
  | (k, j) :: rest => (Letter.ofText k, ofJson j) :: entriesOfJson rest

end

mutual

/-- The document that a raw one is, where no text in it holds a half. -/
def toJson? : Raw → Option Json
  | .null => some .null
  | .bool b => some (.bool b)
  | .num n => some (.num n)
  | .str ls => (Letter.toText? ls).map .str
  | .arr items => (itemsToJson? items).map .arr
  | .obj entries => (entriesToJson? entries).map .obj

/-- The documents that some items are. -/
def itemsToJson? : List Raw → Option (List Json)
  | [] => some []
  | r :: rest => do return (← toJson? r) :: (← itemsToJson? rest)

/-- The entries of documents that some entries are. -/
def entriesToJson? : List (List Letter × Raw) → Option (List (String × Json))
  | [] => some []
  | (k, r) :: rest => do return (← Letter.toText? k, ← toJson? r) :: (← entriesToJson? rest)

end

end Raw

end ArchiveCensus.Json
