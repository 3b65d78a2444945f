import ArchiveCensus.Metadata.FileName
import ArchiveCensus.Metadata.Preservation

/-!
# Metadata/IndexedFile — one file of an archival package

The index keeps a document for each file.  A record is that document with every field read, and with
the preservation metadata in it.  The size of a file is the first positive one of three: that of the
preservation metadata, then the two that the index may hold itself.
-/

namespace ArchiveCensus

/-- One indexed file. -/
structure IndexedFile where
  aipUuid : String
  sipName : String
  fileUuid : String
  path : String
  /-- The extension of the path. -/
  extension : String
  /-- The extension the index states, or else that of the path; without a dot in front. -/
  statedExtension : String
  size : Nat
  status : String
  origin : String
  accessionId : String
  isPartOf : List String
  applicationVersion : String
  lacksIdentifiers : Bool
  indexed : Option Instant
  preservation : Preservation
  deriving DecidableEq

namespace IndexedFile

/-- The file name at the end of the path. -/
def fileName (r : IndexedFile) : String := FileName.ofPath r.path

/-- The first positive of several sizes; zero where there is none. -/
def firstPositive : List Int → Nat
  | [] => 0
  | n :: rest => if 0 < n then n.toNat else firstPositive rest

/-- The extension a document states, or else that of its path. -/
def statedExtensionOf (stated pathExtension : String) : String :=
  let stated := Text.lower stated
  Format.dropDot (if stated.isEmpty then pathExtension else stated)

/-- The record of an index document. -/
def ofSource (source : Json) : Except Defect IndexedFile := do
  let path := (source.get "filePath").label
  let extension := FileName.extension path
  let preservation ← Preservation.ofMets (source.get "METS")
  return {
    aipUuid := (source.get "AIPUUID").label
    sipName := (source.get "sipName").label
    fileUuid := (source.get "FILEUUID").label
    path := path
    extension := extension
    statedExtension := statedExtensionOf (source.get "fileExtension").label extension
    size := firstPositive [preservation.size, (source.get "size").wholeMeasure,
      (source.get "FileSize").wholeMeasure]
    status := (source.get "status").label
    origin := (source.get "origin").label
    accessionId := (source.get "accessionid").label
    isPartOf := (source.get "isPartOf").labels
    applicationVersion := (source.get "archivematicaVersion").label
    lacksIdentifiers := (source.get "identifiers").size == 0
    indexed := Instant.ofSeconds? (source.get "indexedAt").measure
    preservation := preservation }

end IndexedFile

end ArchiveCensus
