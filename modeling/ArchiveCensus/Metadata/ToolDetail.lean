import ArchiveCensus.Text.Blank

/-!
# Metadata/ToolDetail — the tool named by an event

The detail of an event is a list of segments set off by semicolons, such as
`program="Siegfried"; version="1.9"`.  A segment that starts with `program=` or `version=` gives the
program or the version, in quotes or without; a later segment wins over an earlier one.
-/

namespace ArchiveCensus.ToolDetail

open Text

/-- The segments of a text between semicolons. -/
def segments (cs : List Char) : List (List Char) :=
  cs.splitOn ';'

/-- What a trimmed segment gives to a key, without the quotes around it. -/
def valueFor? (key : String) (segment : List Char) : Option String :=
  (key.toList.isPrefixOf? segment).map fun rest => String.ofList (strip (· == '"') rest)

/-- The last value that the segments of a detail give to a key; empty where none does. -/
def valueOf (key : String) (detail : List Char) : String :=
  (((segments detail).filterMap fun s => valueFor? key (strip isPadding s)).getLast?).getD ""

/-- The tool of a detail: its program and its version with a blank between them, or the one that is
given. -/
def tool (detail : String) : String :=
  let cs := strip isPadding detail.toList
  let program := valueOf "program=" cs
  let version := valueOf "version=" cs
  if program.isEmpty then version
  else if version.isEmpty then program
  else program ++ " " ++ version

end ArchiveCensus.ToolDetail
