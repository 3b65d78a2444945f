import ArchiveCensus.Metadata.IndexedFile
import ArchiveCensus.Census.Ranking

/-!
# Census/Sample — one of the largest files

A report names the largest files of a package: a sample holds what the report says of such a file.
Samples are ranked by size, and equal sizes by path.
-/

namespace ArchiveCensus

/-- What a report says of one file. -/
structure Sample where
  path : String
  fileUuid : String
  size : Nat
  extension : String
  registryKey : String
  formatName : String
  status : String
  created : String
  indexed : String
  deriving DecidableEq, Repr

namespace Sample

/-- The sample of a file. -/
def ofRecord (r : IndexedFile) : Sample :=
  { path := r.path
    fileUuid := r.fileUuid
    size := r.size
    extension := r.extension
    registryKey := r.preservation.format.registryKey
    formatName := r.preservation.format.name
    status := r.status
    created := Instant.textOf r.preservation.created
    indexed := Instant.textOf r.indexed }

/-- The order of samples: the largest first, equal sizes by path. -/
def before : Sample → Sample → Bool := Ranking.precedes Sample.size Sample.path

/-- How many files a report names. -/
def capacity : Int := 10

/-- The largest files with one more; a file without a size is none of them. -/
def keep (largest : List Sample) (r : IndexedFile) : List Sample :=
  if r.size = 0 then largest else Ranking.push capacity before largest (ofRecord r)

end Sample

end ArchiveCensus
