import ArchiveCensus.Number.Numeral
import ArchiveCensus.Service.Settings
import ArchiveCensus.Text.Wrap

/-!
# Service/Help — how the command is used

The help of the command has three parts: how the command is called, what it does, and what its
options are for.  It is set in the columns that the environment tells of: what a line cannot hold
goes on in the next one, below what it belongs to.
-/

namespace ArchiveCensus.Help

/-! ## What is said -/

/-- An option as the help tells of it. -/
structure Entry where
  /-- The option where the command is called. -/
  call : String
  /-- The option in all its forms. -/
  form : String
  purpose : String

/-- The name of the command. -/
def program : String := "aip_stats.py"

/-- What the command does. -/
def description : String := "List AIPs or compute per-AIP stats from the search index."

/-- The options of the command. -/
def entries : List Entry :=
  [⟨"[-h]", "-h, --help", "show this help message and exit"⟩,
    ⟨"[--aip-uuid AIP_UUID]", "--aip-uuid AIP_UUID", "scan one AIP and print its stats"⟩,
    ⟨"[--limit LIMIT]", "--limit LIMIT", "list size, or page size with --aip-uuid"⟩,
    ⟨"[--cursor CURSOR]", "--cursor CURSOR", "resume a listing from next_cursor"⟩,
    ⟨"[--index INDEX]", "--index INDEX", "override APP_ES_AIP_INDEX"⟩,
    ⟨"[--verbose]", "--verbose", "log scan progress to stderr"⟩]

/-! ## How it is set -/

/-- So many blanks. -/
def blanks (n : Nat) : List Char := List.replicate n ' '

/-- Lines from a column on. -/
def indent (column : Nat) (lines : List (List Char)) : List (List Char) :=
  lines.map (blanks column ++ ·)

/-- Lines from a column on, the first of them on the line of their title. -/
def beside (title : List Char) (column : Nat) (lines : List (List Char)) : List (List Char) :=
  match lines with
  | [] => [title]
  | line :: rest => (title ++ blanks (column - title.length) ++ line) :: indent column rest

/-- How the command is called: on one line where it fits; else beside the name of the command, or
below it where the name takes up more than three quarters of a line. -/
def usage (width : Nat) : List (List Char) :=
  let label := "usage: ".toList
  let title := label ++ program.toList
  let calls := entries.map fun e => Text.Wrap.Piece.mk true e.call.toList
  let line := title ++ calls.flatMap fun p => ' ' :: p.chars
  if line.length ≤ width then [line]
  else if 4 * title.length ≤ 3 * width then
    let column := title.length + 1
    beside title column (Text.Wrap.fill (width - column) calls)
  else title :: indent label.length (Text.Wrap.fill (width - label.length) calls)

/-- The column of the purposes: behind the widest form where there is room for that. -/
def column (width : Nat) : Nat :=
  let widest := entries.foldl (fun n e => max n e.form.length) 0
  min (widest + 4) (min 24 (max 4 (width - 20)))

/-- The least width that a text is set in. -/
def leastWidth : Nat := 11

/-- An option and its purpose, beside it or below it. -/
def Entry.lines (width : Nat) (e : Entry) : List (List Char) :=
  let column := column width
  let form := blanks 2 ++ e.form.toList
  let purpose := Text.Wrap.lines (max leastWidth (width - column)) e.purpose
  if form.length + 2 ≤ column then beside form column purpose else form :: indent column purpose

/-- The help for some columns, two of which stay free. -/
def text (columns : Nat) : String :=
  let width := columns - 2
  let lines := usage width ++ [[]] ++ Text.Wrap.lines (max leastWidth width) description ++
    [[], "options:".toList] ++ entries.flatMap (Entry.lines width)
  String.ofList (lines.flatMap (· ++ ['\n']))

/-- The columns that an environment tells of. -/
def columnsOf (env : Environment) : Nat :=
  match (env.lookup "COLUMNS").bind fun s => Numeral.wholeNumber? s.toList with
  | some columns => if 0 < columns then columns.toNat else 80
  | none => 80

end ArchiveCensus.Help
