import ArchiveCensus.Text.Printable
import ArchiveCensus.Json.Writer

/-!
# Json/Plain — documents as plain text

An identifier that is not a text is shown by the plain text of its document: words with a capital
for null and the truth values, lists in brackets, maps in braces, and texts inside them in quotes.
A text by itself is shown as it is.
-/

namespace ArchiveCensus.Json

/-- The words for the doubles that have no digits. -/
def plainWords : Binary64.Words := ⟨"inf", "-inf", "nan"⟩

/-- The quote of a text: single, unless the text holds single quotes and no double ones. -/
def plainQuote (cs : List Char) : Char :=
  if cs.contains '\'' && !cs.contains '"' then '"' else '\''

/-- A character inside a quoted text: quotes of its own kind, backslashes and what is not printable
are escaped. -/
def plainChar (mark c : Char) : List Char :=
  if c = mark ∨ c = '\\' then ['\\', c]
  else if c = '\n' then ['\\', 'n']
  else if c = '\r' then ['\\', 'r']
  else if c = '\t' then ['\\', 't']
  else if Text.isPrintable c then [c]
  else if c.toNat < 0x100 then '\\' :: 'x' :: hexText c.toNat 2
  else if c.toNat < 0x10000 then '\\' :: 'u' :: hexText c.toNat 4
  else '\\' :: 'U' :: hexText c.toNat 8

/-- A text in quotes. -/
def plainText (s : String) : List Char :=
  let cs := s.toList
  let mark := plainQuote cs
  mark :: cs.flatMap (plainChar mark) ++ [mark]

mutual

/-- A document inside another one. -/
def plainPart : Json → List Char
  | .null => "None".toList
  | .bool true => "True".toList
  | .bool false => "False".toList
  | .num n => n.text plainWords
  | .str s => plainText s
  | .arr items => '[' :: plainItems items ++ [']']
  | .obj entries => '{' :: plainEntries entries ++ ['}']

/-- Items with commas between them. -/
def plainItems : List Json → List Char
  | [] => []
  | [j] => plainPart j
  | j :: rest => plainPart j ++ [',', ' '] ++ plainItems rest

/-- Entries with commas between them. -/
def plainEntries : List (String × Json) → List Char
  | [] => []
  | [(k, v)] => plainText k ++ [':', ' '] ++ plainPart v
  | (k, v) :: rest => plainText k ++ [':', ' '] ++ plainPart v ++ [',', ' '] ++ plainEntries rest

end

/-- The plain text of a document. -/
def plain : Json → String
  | .str s => s
  | j => String.ofList (plainPart j)

/-- The text of an identifier: nothing where the document does not count as given. -/
def identifier (j : Json) : String :=
  if j.isGiven then j.plain else ""

end ArchiveCensus.Json
