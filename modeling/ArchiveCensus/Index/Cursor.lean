import ArchiveCensus.Fault
import ArchiveCensus.Text.Base64Url
import ArchiveCensus.Json.Reader
import ArchiveCensus.Json.Writer

/-!
# Index/Cursor — where a listing goes on

A cursor is one word that holds the sort values of the last document a caller has seen: their
compact JSON text, its UTF-8 bytes, and the Base64 text of these.  An empty cursor stands for the
start.

* `encode` writes a cursor; it never fails.
* `read` reads one, with padding around it.  What it cannot read is a fault that says which layer
  is damaged.
* `decode` gives what is read as documents.  A cursor may spell half of a surrogate pair, which no
  document of this library has: it is read, but no listing goes on from it here.
-/

namespace ArchiveCensus.Cursor

open Text

/-- The cursor of some sort values. -/
def encode (values : List Json) : String :=
  String.ofList (Base64Url.encode (Json.render Json.compact (.arr values)).toUTF8.data.toList)

/-- The text of a cursor: its bytes must be UTF-8. -/
def payload (cs : List Char) : Except Fault String :=
  match Base64Url.decode? cs with
  | none => .error (.malformedCursor .encoding)
  | some bytes =>
      match String.fromUTF8? ⟨bytes.toArray⟩ with
      | none => .error (.malformedCursor .payload)
      | some text => .ok text

/-- The sort values of the text of a cursor: it must be a JSON list. -/
def values (text : String) : Except Fault (List Json.Raw) :=
  match Json.parse text.toList with
  | .ok (.arr items) => .ok items
  | .ok _ | .error .malformed => .error (.malformedCursor .payload)
  | .error (.wholeTooLong digits) => .error (.defect (.wholeTooLong digits))

/-- The sort values a cursor holds, as they are read; none for an empty one. -/
def read (cursor : String) : Except Fault (Option (List Json.Raw)) :=
  match strip isPadding cursor.toList with
  | [] => .ok none
  | cs => do return some (← values (← payload cs))

/-- Sort values as documents, where no text in them holds half of a surrogate pair. -/
def narrow : Option (List Json.Raw) → Except Fault (Option (List Json))
  | none => .ok none
  | some raws =>
      match Json.Raw.itemsToJson? raws with
      | some values => .ok (some values)
      | none => .error (.defect .loneHalf)

/-- The sort values a cursor holds, as documents; none for an empty one. -/
def decode (cursor : String) : Except Fault (Option (List Json)) := do
  narrow (← read cursor)

/-- An empty cursor holds nothing. -/
@[simp] theorem decode_empty : decode "" = .ok none := rfl

end ArchiveCensus.Cursor
