import ArchiveCensus.Text.Order
import ArchiveCensus.Time.Timestamp
import ArchiveCensus.Metadata.Format
import ArchiveCensus.Metadata.ToolDetail

/-!
# Metadata/Preservation — what the preservation metadata say of a file

The METS export of a file is a tree of maps.  One branch describes the PREMIS object — its size, its
format, when it was created, and the objects derived from it — and another one the PREMIS events.
An element that may be repeated is a list or, when there is one, a single map; both read alike.

Everything that cannot be read is absent.  Only a date that exists but lies outside the calendar in
UTC fails.
-/

namespace ArchiveCensus

/-- Something that happened to a file. -/
structure Event where
  type : String
  outcome : String
  tool : String
  deriving DecidableEq, Repr

/-- What the preservation metadata say of a file. -/
structure Preservation where
  size : Int
  format : Format
  created : Option Instant
  eventDates : List Instant
  events : List Event
  normalizedIds : List String
  deriving DecidableEq

namespace Preservation

/-! ## The branches of the export -/

/-- The administrative section. -/
def adminPath : List String := ["amdSec", "mets:amdSec_dict"]

/-- The described object, below the administrative section. -/
def objectPath : List String :=
  ["mets:techMD_dict", "mets:mdWrap_dict", "mets:xmlData_dict", "premis:object_dict"]

/-- The event, below a provenance element. -/
def eventPath : List String := ["mets:mdWrap_dict", "mets:xmlData_dict", "premis:event_dict"]

/-- The described object of an export. -/
def object (mets : Json) : Json := mets.follow (adminPath ++ objectPath)

/-! ## Derived objects -/

/-- The identifier of the object that a relationship leads to. -/
def relatedId (relationship : Json) : String :=
  (relationship.follow
    ["premis:relatedObjectIdentifier_dict", "premis:relatedObjectIdentifierValue"]).label

/-- The identifiers of the objects derived from a file, in order and each once. -/
def normalizedIdsOf (mets : Json) : List String :=
  let relationships := ((object mets).get "premis:relationship_dict").repeated
  Text.sortedDistinct ((relationships.map relatedId).filter (!·.isEmpty))

/-! ## Events -/

/-- The event of a provenance element. -/
def eventOf (element : Json) : Event :=
  let event := element.follow eventPath
  { type := (event.get "premis:eventType").label
    outcome := (event.follow
      ["premis:eventOutcomeInformation_dict", "premis:eventOutcome"]).label
    tool := ToolDetail.tool (event.follow
      ["premis:eventDetailInformation_dict", "premis:eventDetail"]).label }

/-- Whether anything is stated of an event. -/
def isStated (e : Event) : Bool :=
  !e.type.isEmpty || !e.outcome.isEmpty || !e.tool.isEmpty

/-- The provenance elements of an export. -/
def provenance (mets : Json) : List Json :=
  ((mets.follow adminPath).get "mets:digiprovMD_dict").repeated

/-- The dates of provenance elements that have one. -/
def datesOf : List Json → Except Defect (List Instant)
  | [] => .ok []
  | element :: rest => do
      let date ← Timestamp.ofJson ((element.follow eventPath).get "premis:eventDateTime")
      return date.toList ++ (← datesOf rest)

/-! ## All of it -/

/-- What is said of a file without an export. -/
def absent : Preservation := ⟨0, ⟨"", "", ""⟩, none, [], [], []⟩

/-- The format an object states. -/
def formatOf (characteristics : Json) : Format :=
  let format := characteristics.get "premis:format_dict"
  let designation := format.get "premis:formatDesignation_dict"
  { registryKey := (format.follow
      ["premis:formatRegistry_dict", "premis:formatRegistryKey"]).label
    name := (designation.get "premis:formatName").label
    version := (designation.get "premis:formatVersion").label }

/-- What an export says of its file. -/
def ofMets (mets : Json) : Except Defect Preservation := do
  let characteristics := (object mets).get "premis:objectCharacteristics_dict"
  let dates ← datesOf (provenance mets)
  let created ← Timestamp.ofJson (characteristics.follow
    ["premis:creatingApplication_dict", "premis:dateCreatedByApplication"])
  return {
    size := (characteristics.get "premis:size").wholeMeasure
    format := formatOf characteristics
    created := created
    eventDates := dates
    events := ((provenance mets).map eventOf).filter isStated
    normalizedIds := normalizedIdsOf mets }

end Preservation

end ArchiveCensus
