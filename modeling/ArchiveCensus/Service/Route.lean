import ArchiveCensus.Service.Target

/-!
# Service/Route — where a request goes

A path is matched part by part; a part that names something is never empty.
-/

namespace ArchiveCensus

open Text

/-- What a path leads to. -/
inductive Route where
  | health
  | listing
  | report (aipUuid : String)
  | lookup (transferUuid : String)
  | status
  | probes
  deriving DecidableEq, Repr

namespace Route

/-- The route of the parts of a path. -/
def ofParts : List String → Option Route
  | ["", "healthz"] => some .health
  | ["", "api", "v1", "aips"] => some .listing
  | ["", "api", "v1", "aips", uuid, "stats"] => if uuid.isEmpty then none else some (.report uuid)
  | ["", "api", "v1", "search-index", "transfers", uuid] =>
      if uuid.isEmpty then none else some (.lookup uuid)
  | ["", "api", "v1", "search-index", "status"] => some .status
  | ["", "api", "v1", "internal", "probes"] => some .probes
  | _ => none

/-- The parts of a path between slashes. -/
def parts (path : List Char) : List String := (path.splitOn '/').map String.ofList

/-- The route of a path; one line end after the path does not count. -/
def ofPath? (path : List Char) : Option Route :=
  ofParts (parts path) <|>
    if path.getLast? = some '\n' then ofParts (parts path.dropLast) else none

/-- Whether a path would have a route without the slashes at its end. -/
def endsInSlash (path : List Char) : Bool :=
  path.getLast? == some '/' && (ofPath? (stripEnd (· == '/') path)).isSome

end Route

end ArchiveCensus
