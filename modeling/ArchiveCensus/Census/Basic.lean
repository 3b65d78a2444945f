import ArchiveCensus.Time.Span
import ArchiveCensus.Census.Sample

/-!
# Census/Basic — the running figures of one package

A census takes in one file after another and keeps no file: only counters, tallies, sets, spans, the
delays and the largest files.  Each of these parts has its own step, and

* `add` takes in a record by the step of every part;
* `addSource` takes in an index document, unless it has no record.
-/

namespace ArchiveCensus

/-! ## Counters -/

/-- How many files there are of some kinds, and how much is in them. -/
structure Counters where
  files : Nat
  bytes : Nat
  /-- Files that others were derived from. -/
  normalized : Nat
  /-- Files that no others were derived from. -/
  notNormalized : Nat
  /-- References to derived files. -/
  references : Nat
  lackingIdentifiers : Nat
  /-- Files without a registry key and a format name. -/
  unknownFormats : Nat
  /-- Files without a date of creation. -/
  lackingCreated : Nat
  /-- Files whose extension contradicts their format. -/
  mismatches : Nat
  deriving DecidableEq

namespace Counters

/-- The counters of no files. -/
def zero : Counters := ⟨0, 0, 0, 0, 0, 0, 0, 0, 0⟩

/-- The counters with one more file. -/
def add (c : Counters) (r : IndexedFile) : Counters :=
  let m := r.preservation
  { files := c.files + 1
    bytes := c.bytes + r.size
    normalized := c.normalized + (!m.normalizedIds.isEmpty).toNat
    notNormalized := c.notNormalized + m.normalizedIds.isEmpty.toNat
    references := c.references + m.normalizedIds.length
    lackingIdentifiers := c.lackingIdentifiers + r.lacksIdentifiers.toNat
    unknownFormats := c.unknownFormats +
      (m.format.registryKey.isEmpty && m.format.name.isEmpty).toNat
    lackingCreated := c.lackingCreated + m.created.isNone.toNat
    mismatches := c.mismatches +
      (Format.isMismatch m.format.registryKey m.format.name r.statedExtension).toNat }

end Counters

/-! ## Tallies -/

/-- How often each value was met. -/
structure Tables where
  status : Tally
  origin : Tally
  accession : Tally
  isPartOf : Tally
  applicationVersion : Tally
  registryKey : Tally
  formatName : Tally
  /-- By the signature of the format. -/
  format : Tally
  eventType : Tally
  eventOutcome : Tally
  eventTool : Tally
  extension : Tally
  /-- By the file name in lower case. -/
  fileName : Tally
  deriving DecidableEq

namespace Tables

/-- The tallies of no files. -/
def empty : Tables := ⟨[], [], [], [], [], [], [], [], [], [], [], [], []⟩

/-- Counts what each of several events says. -/
def tallyEvents (part : Event → String) (t : Tally) (events : List Event) : Tally :=
  events.foldl (fun t e => t.bumpGiven (part e)) t

/-- The tallies with one more file.  Empty values are not counted, except by the extension. -/
def add (t : Tables) (r : IndexedFile) : Tables :=
  let m := r.preservation
  { status := t.status.bumpGiven r.status
    origin := t.origin.bumpGiven r.origin
    accession := t.accession.bumpGiven r.accessionId
    isPartOf := t.isPartOf.bumpAll r.isPartOf
    applicationVersion := t.applicationVersion.bumpGiven r.applicationVersion
    registryKey := t.registryKey.bumpGiven m.format.registryKey
    formatName := t.formatName.bumpGiven m.format.name
    format := if m.format.isStated then t.format.bump m.format.signature else t.format
    eventType := tallyEvents Event.type t.eventType m.events
    eventOutcome := tallyEvents Event.outcome t.eventOutcome m.events
    eventTool := tallyEvents Event.tool t.eventTool m.events
    extension := t.extension.bump r.extension
    fileName := t.fileName.bumpGiven (Text.lower r.fileName) }

end Tables

/-! ## Sets -/

/-- The different values that were met. -/
structure Distinct where
  sipNames : List String
  fileUuids : List String
  normalizedIds : List String
  formats : List String
  deriving DecidableEq

namespace Distinct

/-- The values of no files. -/
def empty : Distinct := ⟨[], [], [], []⟩

/-- A set with one more text, unless it is empty. -/
def insertGiven (set : List String) (s : String) : List String :=
  if s.isEmpty then set else set.insert s

/-- The values with those of one more file. -/
def add (d : Distinct) (r : IndexedFile) : Distinct :=
  let m := r.preservation
  { sipNames := insertGiven d.sipNames r.sipName
    fileUuids := insertGiven d.fileUuids r.fileUuid
    normalizedIds := m.normalizedIds.foldl (fun set id => set.insert id) d.normalizedIds
    formats := if m.format.isStated then d.formats.insert m.format.signature else d.formats }

end Distinct

/-! ## Times -/

/-- When files were indexed and created, and when events happened. -/
structure Times where
  indexed : Span
  created : Span
  events : Span
  /-- The delays between creation and indexing, in seconds and in order of arrival. -/
  delays : List Int
  deriving DecidableEq

namespace Times

/-- The times of no files. -/
def empty : Times := ⟨.empty, .empty, .empty, []⟩

/-- The seconds from the creation of a file to its indexing, where it was indexed later. -/
def delay? (r : IndexedFile) : Option Int :=
  match r.preservation.created, r.indexed with
  | some created, some indexed =>
      if created.before indexed then some (indexed.secondsAfter created) else none
  | _, _ => none

/-- The times with those of one more file. -/
def add (t : Times) (r : IndexedFile) : Times :=
  { indexed := t.indexed.addOption r.indexed
    created := t.created.addOption r.preservation.created
    events := r.preservation.eventDates.foldl Span.add t.events
    delays := t.delays ++ (delay? r).toList }

end Times

/-! ## The census -/

/-- The running figures of one package. -/
structure Census where
  aipUuid : String
  counters : Counters
  tables : Tables
  distinct : Distinct
  times : Times
  largest : List Sample
  deriving DecidableEq

namespace Census

/-- The census of a package before its first file. -/
def start (aipUuid : String) : Census :=
  { aipUuid
    counters := .zero
    tables := .empty
    distinct := .empty
    times := .empty
    largest := [] }

/-- The census with one more file. -/
def add (c : Census) (r : IndexedFile) : Census :=
  { c with
    counters := c.counters.add r
    tables := c.tables.add r
    distinct := c.distinct.add r
    times := c.times.add r
    largest := Sample.keep c.largest r }

/-- The census with one more index document; a document without a record leaves no census. -/
def addSource (c : Census) (source : Json) : Except Defect Census :=
  (IndexedFile.ofSource source).map c.add

/-- A document is taken in exactly if it has a record. -/
theorem addSource_eq_ok_iff {c c' : Census} {source : Json} :
    c.addSource source = .ok c' ↔ ∃ r, IndexedFile.ofSource source = .ok r ∧ c' = c.add r := by
  rw [addSource]
  cases IndexedFile.ofSource source with
  | ok r => simp [Except.map, eq_comm]
  | error d => simp [Except.map]

/-- The census with several index documents. -/
def addSources (c : Census) (sources : List Json) : Except Defect Census :=
  sources.foldlM addSource c

end Census

end ArchiveCensus
