import ArchiveCensus.Json.Basic

/-!
# Json/Writer — documents as JSON text

Characters beyond ASCII are written as they are; a quote, a backslash and the controls below U+0020
are escaped.  A `Style` says what stands between the parts of a list or a map, and nothing else
about the text is open.
-/

namespace ArchiveCensus.Json

/-- What separates items, and a key from its value. -/
structure Style where
  item : List Char
  entry : List Char

/-- No blanks between the parts. -/
def compact : Style := ⟨[','], [':']⟩

/-- One blank after each comma and colon. -/
def spaced : Style := ⟨[',', ' '], [':', ' ']⟩

/-- The words for the doubles that have no digits. -/
def numberWords : Binary64.Words := ⟨"Infinity", "-Infinity", "NaN"⟩

/-! ## Texts -/

/-- A hexadecimal digit, in lower case. -/
def hexChar (d : Nat) : Char :=
  if d < 10 then Char.ofNat (0x30 + d) else Char.ofNat (0x61 + (d - 10))

/-- The hexadecimal digits of a number, `width` of them. -/
def hexText (n : Nat) : Nat → List Char
  | 0 => []
  | width + 1 => hexText (n / 16) width ++ [hexChar (n % 16)]

/-- A character inside a quoted text. -/
def quoteChar (c : Char) : List Char :=
  if c = '"' then ['\\', '"']
  else if c = '\\' then ['\\', '\\']
  else if c = '\n' then ['\\', 'n']
  else if c = '\r' then ['\\', 'r']
  else if c = '\t' then ['\\', 't']
  else if c = '\x08' then ['\\', 'b']
  else if c = '\x0C' then ['\\', 'f']
  else if c.toNat < 0x20 then '\\' :: 'u' :: hexText c.toNat 4
  else [c]

/-- A quoted text. -/
def quote (s : String) : List Char :=
  '"' :: s.toList.flatMap quoteChar ++ ['"']

/-! ## Documents -/

mutual

/-- A document as text. -/
def write (style : Style) : Json → List Char
  | .null => "null".toList
  | .bool true => "true".toList
  | .bool false => "false".toList
  | .num n => n.text numberWords
  | .str s => quote s
  | .arr items => '[' :: writeItems style items ++ [']']
  | .obj entries => '{' :: writeEntries style entries ++ ['}']

/-- Items with separators between them. -/
def writeItems (style : Style) : List Json → List Char
  | [] => []
  | [j] => write style j
  | j :: rest => write style j ++ style.item ++ writeItems style rest

/-- Entries with separators between them. -/
def writeEntries (style : Style) : List (String × Json) → List Char
  | [] => []
  | [(k, v)] => quote k ++ style.entry ++ write style v
  | (k, v) :: rest =>
      quote k ++ style.entry ++ write style v ++ style.item ++ writeEntries style rest

end

/-- The text of a document in a style. -/
def render (style : Style) (j : Json) : String :=
  String.ofList (write style j)

end ArchiveCensus.Json
