import ArchiveCensus.Number.Numeral

/-!
# Service/Arguments — the arguments of the command

The command takes options and nothing else.  An option may be shortened as long as only one option
starts that way, and its value follows it, as the next argument or after an equals sign.

* `classify` says what an argument is by itself.
* `read` goes through the arguments in order.

An argument that looks like an option is never the value of the one before it; a negative number,
and what has a blank in it, does not look like an option.  After two dashes nothing does, and two
dashes after an equals sign stand for no value.
-/

namespace ArchiveCensus

/-- What the command is asked for. -/
structure Arguments where
  aipUuid : String
  /-- None where the option is given without a value. -/
  limit : Option Int
  cursor : String
  index : String
  deriving DecidableEq, Repr

/-- Why the command is not run. -/
inductive Arguments.Stop where
  /-- Help is wanted. -/
  | help
  /-- The arguments make no sense. -/
  | misuse
  deriving DecidableEq, Repr

namespace Arguments

/-! ## Options -/

/-- The options of the command. -/
inductive Flag where
  | help
  | aipUuid
  | limit
  | cursor
  | index
  | verbose
  deriving DecidableEq, Repr

/-- The options by name. -/
def flags : List (String × Flag) :=
  [("-h", .help), ("--help", .help), ("--aip-uuid", .aipUuid), ("--limit", .limit),
    ("--cursor", .cursor), ("--index", .index), ("--verbose", .verbose)]

/-! ## One argument -/

/-- What an argument is by itself. -/
inductive Arg where
  | value (s : String)
  | option (flag : Flag)
  /-- An option with an equals sign; the value after it, if there is one. -/
  | assignment (flag : Flag) (value : Option String)
  /-- What looks like an option and is none. -/
  | stray
  deriving DecidableEq, Repr

/-- Whether a text is a negative number: a dash, digits, and a point before the last of them or
none. -/
def isNegativeNumber : List Char → Bool
  | '-' :: rest =>
      let isDigit (c : Char) := (Text.digit? c).isSome
      let rest := if rest.getLast? = some '\n' then rest.dropLast else rest
      match rest.dropWhile isDigit with
      | [] => !rest.isEmpty
      | '.' :: fraction => !fraction.isEmpty && fraction.all isDigit
      | _ => false
  | _ => false

/-- The options that start with a text. -/
def completions (start : List Char) : List Flag :=
  (flags.filter fun (name, _) => start.isPrefixOf name.toList).map Prod.snd

/-- What is after an equals sign. -/
def assigned (value : List Char) : Option String :=
  if value = ['-', '-'] then none else some (String.ofList value)

/-- What the short option for help is with more behind it: the same as without if that is more of
the same option, after an equals sign or not. -/
def helpAnd (more : List Char) : Arg :=
  let again := if more.head? = some '=' then more.drop 1 else more
  if !again.isEmpty && again.all (· == 'h') then .option .help
  else .assignment .help (some (String.ofList more))

/-- What an argument is that starts with a dash and is not the name of an option; none where several
options start that way. -/
def classifyDashed (cs : List Char) : Option Arg :=
  let name := cs.takeWhile (· != '=')
  let found (flag : Flag) : Arg :=
    match cs.dropWhile (· != '=') with
    | _ :: value => .assignment flag (assigned value)
    | [] => .option flag
  let other : Arg :=
    if isNegativeNumber cs || cs.contains ' ' then .value (String.ofList cs) else .stray
  match cs with
  | '-' :: '-' :: _ =>
      match flags.lookup (String.ofList name), completions name with
      | some flag, _ | none, [flag] => some (found flag)
      | none, [] => some other
      | none, _ => none
  | ['-', 'h'] => some (.option .help)
  | '-' :: 'h' :: more => some (helpAnd more)
  | _ => some other

/-- What an argument is; none where several options start that way. -/
def classify (s : String) : Option Arg :=
  match s.toList with
  | '-' :: c :: rest => classifyDashed ('-' :: c :: rest)
  | _ => some (.value s)

/-- What the arguments are, up to two dashes; whether there are two dashes. -/
def classifyAll : List String → Option (List Arg × Bool)
  | [] => some ([], false)
  | s :: rest =>
      if s = "--" then some ([], true)
      else do
        let arg ← classify s
        let (args, dashes) ← classifyAll rest
        return (arg :: args, dashes)

/-! ## All arguments -/

/-- What is asked for without arguments. -/
def blank : Arguments := ⟨"", some 0, "", ""⟩

/-- Sets an option to a value, or to none. -/
def set (a : Arguments) (value : Option String) : Flag → Except Stop Arguments
  | .aipUuid => .ok { a with aipUuid := value.getD "" }
  | .cursor => .ok { a with cursor := value.getD "" }
  | .index => .ok { a with index := value.getD "" }
  | .limit =>
      match value.map fun s => Numeral.wholeNumber? s.toList with
      | none => .ok { a with limit := none }
      | some (some limit) => .ok { a with limit := some limit }
      | some none => .error .misuse
  | .help | .verbose => .error .misuse

/-- Goes through the arguments; `extra` says whether there was one that belongs nowhere, which
counts only at the end. -/
def read (a : Arguments) (extra : Bool) : List Arg → Except Stop Arguments
  | [] => if extra then .error .misuse else .ok a
  | .value _ :: rest | .stray :: rest => read a true rest
  | .option .help :: _ => .error .help
  | .option .verbose :: rest => read a extra rest
  | .assignment flag value :: rest =>
      match set a value flag with
      | .ok a => read a extra rest
      | .error stop => .error stop
  | .option flag :: .value value :: rest =>
      match set a (some value) flag with
      | .ok a => read a extra rest
      | .error stop => .error stop
  | .option _ :: _ => .error .misuse

/-- What some arguments ask for. -/
def ofList (args : List String) : Except Stop Arguments :=
  match classifyAll args with
  | none => .error .misuse
  | some (args, dashes) => read blank dashes args

end Arguments

end ArchiveCensus
