import ArchiveCensus.Index.Script
import ArchiveCensus.Json.Reader
import ArchiveCensus.Service.Command

/-!
# Main — the command

The settings come from the environment.  The answers of the index are read from standard input, one
exchange a line; the line of the command goes to standard output, warnings go to standard error.
-/

open ArchiveCensus

/-- The names that the command looks up in its environment. -/
def settingNames : List String :=
  ["COLUMNS", "APP_ES_ENABLED", "APP_ES_ENDPOINT", "APP_ES_TIMEOUT_SEC", "APP_ES_LOOKUP_LIMIT",
    "APP_ES_AIP_INDEX", "APP_ES_SCAN_DEADLINE_SEC", "APP_ES_AIP_LIST_LIMIT",
    "APP_ES_AIP_LIST_MAX_LIMIT", "APP_ES_AIP_LIST_OVERFETCH", "APP_ES_AIP_LIST_MAX_PAGES",
    "APP_ES_AIP_PAGE_SIZE", "APP_ES_AIP_MAX_PAGE_SIZE", "APP_ES_AIP_MAX_PAGES"]

/-- The settings of the environment. -/
def environment : IO Environment := do
  let texts ← settingNames.mapM fun name => return (name, ← IO.getEnv name)
  return texts.filterMap fun (name, text) => text.map (name, ·)

/-- The exchanges on standard input, one a line. -/
partial def exchanges (stdin : IO.FS.Stream) (read : List Exchange) : IO (List Exchange) := do
  let line ← stdin.getLine
  if line.isEmpty then return read.reverse
  match (Json.parse line.toList).toOption.bind Json.Raw.toJson? with
  | some j => exchanges stdin (Exchange.ofJson j :: read)
  | none => exchanges stdin read

/-- The command. -/
def main (args : List String) : IO UInt32 := do
  let script : Script := ⟨← exchanges (← IO.getStdin) []⟩
  let (finish, service) := Command.run args (← environment) (.start script)
  for warning in service.channel.warnings do
    IO.eprintln warning.text
  match finish with
  | .unused status output | .done status output =>
      IO.print output
      return UInt32.ofNat status
  | .broken defect =>
      IO.eprintln (defect.name ++ ": " ++ defect.message)
      return 1
