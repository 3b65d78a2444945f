import ArchiveCensus.Json.Basic
import ArchiveCensus.Census.Report

/-!
# Census/Document — a report as a document

The document of a report is a map with one entry for each of its parts, in a fixed order; dates are
texts, empty where there is none.
-/

namespace ArchiveCensus

/-- A row of a tally as a document. -/
def Ranking.Row.toJson (row : Row) : Json :=
  .obj [("key", .str row.key), ("count", .int row.count)]

/-- A row of a tally of formats as a document. -/
def Ranking.FormatRow.toJson (row : FormatRow) : Json :=
  .obj [
    ("format_registry_key", .str row.format.registryKey),
    ("format_name", .str row.format.name),
    ("format_version", .str row.format.version),
    ("count", .int row.count)]

/-- A sample as a document. -/
def Sample.toJson (s : Sample) : Json :=
  .obj [
    ("file_path", .str s.path),
    ("file_uuid", .str s.fileUuid),
    ("bytes", .int s.size),
    ("extension", .str s.extension),
    ("format_registry_key", .str s.registryKey),
    ("format_name", .str s.formatName),
    ("status", .str s.status),
    ("created_by_app_date", .str s.created),
    ("indexed_at", .str s.indexed)]

namespace Report

/-- A date as a document. -/
def date (t : Option Instant) : Json := .str (Instant.textOf t)

/-- The rows of a tally as a document. -/
def rows (counts : List Ranking.Row) : Json := .arr (counts.map Ranking.Row.toJson)

/-- A report as a document. -/
def toJson (r : Report) : Json :=
  .obj [
    ("aip_uuid", .str r.aipUuid),
    ("sip_names", .texts r.sipNames),
    ("files_total", .int r.counters.files),
    ("unique_file_uuids", .int r.uniqueFileUuids),
    ("originals_with_normalized", .int r.counters.normalized),
    ("originals_without_normalized", .int r.counters.notNormalized),
    ("normalized_refs_total", .int r.counters.references),
    ("unique_normalized_object_ids", .int r.uniqueNormalizedIds),
    ("normalized_by_original_avg", .double r.normalizedAverage),
    ("total_bytes", .int r.counters.bytes),
    ("average_bytes", .double r.bytesAverage),
    ("min_indexed_at", date r.indexed.first),
    ("max_indexed_at", date r.indexed.last),
    ("min_created_by_app_date", date r.created.first),
    ("max_created_by_app_date", date r.created.last),
    ("first_event_date", date r.events.first),
    ("last_event_date", date r.events.last),
    ("status_counts", rows r.statuses),
    ("origin_counts", rows r.origins),
    ("accession_id_counts", rows r.accessions),
    ("is_part_of_counts", rows r.isPartOf),
    ("archivematica_version_counts", rows r.applicationVersions),
    ("format_registry_counts", rows r.registryKeys),
    ("format_name_counts", rows r.formatNames),
    ("format_version_counts", .arr (r.formats.map Ranking.FormatRow.toJson)),
    ("premis_event_type_counts", rows r.eventTypes),
    ("premis_event_outcome_counts", rows r.eventOutcomes),
    ("premis_tool_counts", rows r.eventTools),
    ("missing_identifiers", .int r.counters.lackingIdentifiers),
    ("unknown_formats", .int r.counters.unknownFormats),
    ("missing_created_by_app_date", .int r.counters.lackingCreated),
    ("extension_format_mismatch", .int r.counters.mismatches),
    ("duplicate_filename_groups", .int r.sharedNames),
    ("duplicate_filename_candidates", .int r.sharingFiles),
    ("unique_format_signatures", .int r.uniqueFormats),
    ("format_diversity_ratio", .double r.formatDiversity),
    ("indexed_lag_avg_seconds", .double r.delayAverage),
    ("indexed_lag_p95_seconds", .int r.delayPercentile),
    ("largest_files", .arr (r.largest.map Sample.toJson)),
    ("extension_counts", rows r.extensions),
    ("raw_extension_counts", .obj (r.allExtensions.map fun (key, n) => (key, .int n)))]

end Report

end ArchiveCensus
