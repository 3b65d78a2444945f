import ArchiveCensus.Text.Blank
import ArchiveCensus.Text.Lowercase
import ArchiveCensus.Text.Suffix

/-!
# Metadata/FileName — the name and the extension at the end of a path

A path is split at slashes and backslashes alike.  Its file name is the trimmed last part; the
extension of the name is what follows its last dot, trimmed and in lower case, and a name without
anything after a dot has the extension `unknown`.
-/

namespace ArchiveCensus.FileName

open Text

/-- Whether a character ends a part of a path. -/
def isSeparator (c : Char) : Bool := c == '/' || c == '\\'

/-- The file name of a path, character by character. -/
def nameChars (path : List Char) : List Char :=
  strip isPadding (afterLast isSeparator (strip isPadding path))

/-- The file name at the end of a path. -/
def ofPath (path : String) : String :=
  String.ofList (nameChars path.toList)

/-- The extension of a path whose name has none. -/
def unknown : String := "unknown"

/-- The extension of the file name at the end of a path. -/
def extension (path : String) : String :=
  let name := nameChars path.toList
  let suffix := afterLast (· == '.') name
  if suffix.isEmpty || suffix.length == name.length then unknown
  else lower (String.ofList (strip isPadding suffix))

end ArchiveCensus.FileName
