import ArchiveCensus.Census.Basic
import ArchiveCensus.Census.Figure

/-!
# Census/Report — what is reported of a package

The report of a census is made of its counters, the first rows of its tallies, the bounds of its
spans and a few figures.  It is a value of its own: making it leaves the census as it was.

Only a figure can fail, and then there is no report.
-/

namespace ArchiveCensus

/-- What is reported of a package. -/
structure Report where
  aipUuid : String
  sipNames : List String
  counters : Counters
  uniqueFileUuids : Nat
  uniqueNormalizedIds : Nat
  uniqueFormats : Nat
  /-- Derived files for each file. -/
  normalizedAverage : Binary64
  bytesAverage : Binary64
  /-- Different formats for each file. -/
  formatDiversity : Binary64
  indexed : Span
  created : Span
  events : Span
  delayAverage : Binary64
  delayPercentile : Int
  statuses : List Ranking.Row
  origins : List Ranking.Row
  accessions : List Ranking.Row
  isPartOf : List Ranking.Row
  applicationVersions : List Ranking.Row
  registryKeys : List Ranking.Row
  formatNames : List Ranking.Row
  formats : List Ranking.FormatRow
  eventTypes : List Ranking.Row
  eventOutcomes : List Ranking.Row
  eventTools : List Ranking.Row
  extensions : List Ranking.Row
  /-- Every extension, in the order in which they first came. -/
  allExtensions : Tally
  /-- File names that more than one file has. -/
  sharedNames : Nat
  /-- Files that share their name. -/
  sharingFiles : Int
  largest : List Sample
  deriving DecidableEq

namespace Report

/-- How many rows the general tallies report. -/
def generalLimit : Int := 20

/-- How many rows the tallies of formats and events report. -/
def formatLimit : Int := 50

/-- How many rows the tally of extensions reports. -/
def extensionLimit : Int := 30

/-- The percentile of the delays that is reported. -/
def delayPart : Number := .whole 95

/-- The counts of the file names that more than one file has. -/
def sharedCounts (names : Tally) : List Int := (names.map Prod.snd).filter (1 < ·)

end Report

/-- The report of a census. -/
def Census.report (c : Census) : Except Defect Report := do
  let files := c.counters.files
  let delays := c.times.delays.mergeSort (· ≤ ·)
  let shared := Report.sharedCounts c.tables.fileName
  let general := Ranking.leading Report.generalLimit
  let byFormat := Ranking.leading Report.formatLimit
  return {
    aipUuid := c.aipUuid
    sipNames := Text.sortTexts c.distinct.sipNames
    counters := c.counters
    uniqueFileUuids := c.distinct.fileUuids.length
    uniqueNormalizedIds := c.distinct.normalizedIds.length
    uniqueFormats := c.distinct.formats.length
    delayAverage := ← Figure.mean delays
    delayPercentile := ← Figure.percentile 0 delays Report.delayPart
    normalizedAverage := ← Figure.ratio c.counters.references files
    bytesAverage := ← Figure.ratio c.counters.bytes files
    formatDiversity := ← Figure.ratio c.distinct.formats.length files
    indexed := c.times.indexed
    created := c.times.created
    events := c.times.events
    statuses := general c.tables.status
    origins := general c.tables.origin
    accessions := general c.tables.accession
    isPartOf := general c.tables.isPartOf
    applicationVersions := general c.tables.applicationVersion
    registryKeys := byFormat c.tables.registryKey
    formatNames := byFormat c.tables.formatName
    formats := ← Ranking.leadingFormats Report.formatLimit Format.separator.toString c.tables.format
    eventTypes := byFormat c.tables.eventType
    eventOutcomes := byFormat c.tables.eventOutcome
    eventTools := byFormat c.tables.eventTool
    extensions := Ranking.leading Report.extensionLimit c.tables.extension
    allExtensions := c.tables.extension
    sharedNames := shared.length
    sharingFiles := shared.foldl (· + ·) 0
    largest := c.largest }

end ArchiveCensus
