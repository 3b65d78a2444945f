import ArchiveCensus.Text.Blank
import ArchiveCensus.Text.Lowercase
import ArchiveCensus.Text.Order

/-!
# Metadata/Format — formats and the extensions they imply

A format is known by its key in a registry, by its name and by its version.  Some keys imply the
extensions a file may have, and so do some names for files whose key implies none; a file whose
extension is not among them is a mismatch.

The identity of a format is written as its three texts with the separator U+001F between them;
`ofSignature?` reads it back, with a separator of choice.
-/

namespace ArchiveCensus

/-- A format as a file states it. -/
structure Format where
  registryKey : String
  name : String
  version : String
  deriving DecidableEq, Repr

namespace Format

open Text

/-! ## Implied extensions -/

/-- The extensions that registry keys imply. -/
def extensionsByKey : List (String × List String) :=
  [("fmt/353", ["tif", "tiff"]), ("fmt/11", ["png"]), ("fmt/4", ["gif"]), ("fmt/91", ["svg"]),
   ("fmt/43", ["jpg", "jpeg"]), ("fmt/402", ["tga"]), ("x-fmt/392", ["jp2", "j2k", "jpf"])]

/-- The extensions that a description inside a format name implies; the first description found
counts. -/
def extensionsByName : List (String × List String) :=
  [("portable network graphics", ["png"]), ("graphics interchange format", ["gif"]),
   ("scalable vector graphics", ["svg"]), ("jpeg", ["jpg", "jpeg"]), ("tiff", ["tif", "tiff"])]

/-- Whether a text occurs inside another one. -/
def occursIn (part : List Char) : List Char → Bool
  | [] => part.isEmpty
  | c :: cs => part.isPrefixOf (c :: cs) || occursIn part cs

/-- A text as it is compared: trimmed and in lower case. -/
def fold (s : String) : String := lower (trim s)

/-- The extensions implied by a registry key and a format name; none where neither is known. -/
def impliedExtensions (registryKey name : String) : List String :=
  match extensionsByKey.lookup (fold registryKey) with
  | some extensions => extensions
  | none =>
      let name := (fold name).toList
      ((extensionsByName.find? fun (description, _) => occursIn description.toList name).map
        Prod.snd).getD []

/-- A text without the dot it may start with. -/
def dropDot (s : String) : String :=
  match s.toList with
  | '.' :: rest => String.ofList rest
  | _ => s

/-- Whether an extension contradicts a registry key and a format name: it is given, extensions are
implied, and it is none of them. -/
def isMismatch (registryKey name extension : String) : Bool :=
  let extension := dropDot (fold extension)
  let implied := impliedExtensions registryKey name
  !extension.isEmpty && !implied.isEmpty && !implied.contains extension

/-! ## Identity -/

/-- What separates the parts of a signature. -/
def separator : Char := '\x1F'

/-- Whether anything is stated of a format. -/
def isStated (f : Format) : Bool :=
  !f.registryKey.isEmpty || !f.name.isEmpty || !f.version.isEmpty

/-- The identity of a format as one text. -/
def signature (f : Format) : String :=
  String.ofList (f.registryKey.toList ++ separator :: f.name.toList ++ separator ::
    f.version.toList)

/-- What stands before the first occurrence of a separator, and what stands after it. -/
def cut? (separator : List Char) : List Char → Option (List Char × List Char)
  | [] => none
  | c :: cs =>
      match separator.isPrefixOf? (c :: cs) with
      | some rest => some ([], rest)
      | none => (cut? separator cs).map fun (before, rest) => (c :: before, rest)

/-- The format of a signature: what stands before the first separator is its key, what stands before
the second one its name, and all the rest its version.  There is none without a separator to look
for. -/
def ofSignature? (separator : List Char) (signature : String) : Option Format :=
  if separator.isEmpty then none
  else
    match cut? separator signature.toList with
    | none => some ⟨signature, "", ""⟩
    | some (key, rest) =>
        match cut? separator rest with
        | none => some ⟨String.ofList key, String.ofList rest, ""⟩
        | some (name, version) =>
            some ⟨String.ofList key, String.ofList name, String.ofList version⟩

end Format

end ArchiveCensus
