import ArchiveCensus.Text.Lowercase
import ArchiveCensus.Index.Client
import ArchiveCensus.Index.Limits
import ArchiveCensus.Number.Numeral

/-!
# Service/Settings — settings from the environment

An environment gives texts to names.  A setting that is missing, blank or not readable has its
default, and a limit is never below one.
-/

namespace ArchiveCensus

open Text

/-- Texts by name. -/
abbrev Environment := List (String × String)

namespace Environment

/-- The trimmed text of a name; empty where there is none. -/
def text (env : Environment) (name : String) : String := trim ((env.lookup name).getD "")

/-- The reading of the text of a name; the default where it is blank or cannot be read. -/
def read {α : Type} (env : Environment) (name : String) (reading : List Char → Option α)
    (default : α) : α :=
  let s := env.text name
  if s.isEmpty then default else (reading s.toList).getD default

/-- Whether a text says yes. -/
def saysYes (s : String) : Bool := ["1", "true", "yes", "on"].contains (lower (trim s))

/-- A setting that is on or off: on where its text says yes. -/
def flag (env : Environment) (name : String) (default : Bool) : Bool :=
  env.read name (fun cs => some (saysYes (String.ofList cs))) default

/-- A setting that is a whole number. -/
def whole (env : Environment) (name : String) (default : Int) : Int :=
  env.read name Numeral.wholeNumber? default

/-- A setting that is a whole number and at least one. -/
def atLeastOne (env : Environment) (name : String) (default : Int) : Int :=
  max 1 (env.whole name default)

/-- A setting that is a number of seconds. -/
def seconds (env : Environment) (name : String) (default : Binary64) : Binary64 :=
  env.read name Numeral.decimalNumber? default

/-- **A limit is at least one, whatever the environment says.** -/
theorem one_le_atLeastOne (env : Environment) (name : String) (default : Int) :
    1 ≤ env.atLeastOne name default :=
  Int.le_max_left _ _

end Environment

/-- The limits an environment sets. -/
def Limits.ofEnvironment (env : Environment) : Limits :=
  let d := Limits.standard
  { listDefault := env.atLeastOne "APP_ES_AIP_LIST_LIMIT" d.listDefault
    listMax := env.atLeastOne "APP_ES_AIP_LIST_MAX_LIMIT" d.listMax
    listOverfetch := env.atLeastOne "APP_ES_AIP_LIST_OVERFETCH" d.listOverfetch
    listMaxPages := env.atLeastOne "APP_ES_AIP_LIST_MAX_PAGES" d.listMaxPages
    scanDefaultPage := env.atLeastOne "APP_ES_AIP_PAGE_SIZE" d.scanDefaultPage
    scanMaxPage := env.atLeastOne "APP_ES_AIP_MAX_PAGE_SIZE" d.scanMaxPage
    scanMaxPages := env.atLeastOne "APP_ES_AIP_MAX_PAGES" d.scanMaxPages }

/-- The settings of the service. -/
structure Settings where
  /-- Whether the index may be asked at all. -/
  enabled : Bool
  endpoint : String
  timeout : Binary64
  lookupLimit : Int
  aipIndex : String
  /-- How long a scan may take; zero for any time. -/
  scanDeadline : Binary64
  limits : Limits

namespace Settings

/-- The settings of an environment. -/
def ofEnvironment (env : Environment) : Settings :=
  let index := env.text "APP_ES_AIP_INDEX"
  let deadline := env.seconds "APP_ES_SCAN_DEADLINE_SEC" (.ofInt 120)
  { enabled := env.flag "APP_ES_ENABLED" false
    endpoint := stripStringEnd (· == '/')
      (trim ((env.lookup "APP_ES_ENDPOINT").getD "http://127.0.0.1:62002"))
    timeout := env.seconds "APP_ES_TIMEOUT_SEC" (.ofInt 5)
    lookupLimit := env.whole "APP_ES_LOOKUP_LIMIT" 5
    aipIndex := if index.isEmpty then "aipfiles" else index
    scanDeadline := (max (Number.double .zero) (.double deadline)).toDouble
    limits := .ofEnvironment env }

/-- The client of the index. -/
def client (c : Settings) : Client := .ofEndpoint c.endpoint (.double c.timeout)

/-- Whether the service asks the index. -/
def serves (c : Settings) : Bool := c.enabled && c.client.enabled

/-- The origins that pages may call the service from, between commas. -/
def origins (env : Environment) : List String :=
  let list := (env.lookup "CORS_ALLOW_ORIGINS").getD "http://127.0.0.1:5173,http://localhost:5173"
  ((list.toList.splitOn ',').map fun cs => trim (String.ofList cs)).filter (!·.isEmpty)

end Settings

end ArchiveCensus
