import ArchiveCensus.Census.Document
import ArchiveCensus.Json.Writer
import ArchiveCensus.Service.Arguments
import ArchiveCensus.Service.Basic
import ArchiveCensus.Service.Help

/-!
# Service/Command — the service from the command line

The command lists packages, or reports on one, and writes one line of JSON.  Its status tells a
fault or a misuse from success; a defect breaks it off without a line.
-/

namespace ArchiveCensus.Command

/-- How the command ends. -/
inductive Finish where
  /-- It is not run: help was wanted, or the arguments make no sense. -/
  | unused (status : Nat) (output : String)
  | done (status : Nat) (output : String)
  | broken (defect : Defect)

/-- The operation that is asked for, with a limit. -/
def operation (a : Arguments) (limit : Int) : Operation :=
  if a.aipUuid.isEmpty then .list ⟨a.index, some limit, a.cursor⟩
  else .report ⟨a.index, a.aipUuid, some limit⟩

/-- What is wrong with an operation whose limit has no value: that, unless something is wrong that
is looked at before. -/
def limitless (a : Arguments) (c : Settings) : Fault :=
  if !c.serves then .indexDisabled
  else if !a.aipUuid.isEmpty && (Text.trim a.aipUuid).isEmpty then .invalidIdentifier .aip
  else .defect .noLimit

/-- The data of an outcome. -/
def data : Outcome → Json
  | .listing l => .obj [
      ("items", .arr (l.items.map Listing.Item.toJson)),
      ("next_cursor", .str l.nextCursor)]
  | .report r => r.toJson
  | .lookup l => l.toJson
  | .status s => s.toJson

/-- A document as the line that is written. -/
def line (j : Json) : String := Json.render Json.spaced j ++ "\n"

/-- The end of a command whose operation has come to a result. -/
def finish : Except Fault Outcome → Finish
  | .ok outcome => .done 0 (line (.obj [("success", .bool true), ("data", data outcome)]))
  | .error (.defect d) => .broken d
  | .error f =>
      let code := (f.kind?.map Kind.code).getD ""
      .done 2 (line (.obj [
        ("success", .bool false),
        ("error", .obj [("code", .str code), ("message", .str f.message)])]))

variable {σ : Type}

/-- Runs the command with arguments in an environment. -/
def run [Responder σ] (args : List String) (env : Environment) (s : Service σ) :
    Finish × Service σ :=
  let c := Settings.ofEnvironment env
  match Arguments.ofList args with
  | .error .help => (.unused 0 (Help.text (Help.columnsOf env)), s)
  | .error .misuse => (.unused 2 "", s)
  | .ok a =>
      match a.limit with
      | none => (finish (.error (limitless a c)), s)
      | some limit =>
          let (result, s) := s.perform c false (operation a limit)
          (finish result, s)

end ArchiveCensus.Command
