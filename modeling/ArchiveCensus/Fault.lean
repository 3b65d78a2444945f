import ArchiveCensus.Number.Basic

/-!
# Fault — why a call gives no answer

A *fault* is a cause that a caller can act on: the index does not answer, the service is switched
off, a cursor or an identifier is no good, a scan was stopped.  Each belongs to a `Kind` with its
code, class and status.  A *defect* is a value that a calculation cannot take; it has a name and a
message but no code.
-/

namespace ArchiveCensus

/-! ## Defects -/

/-- A value that a calculation cannot take. -/
inductive Defect where
  /-- An instant before the first or after the last year. -/
  | dateOutOfRange
  /-- The whole part of an infinity. -/
  | infiniteWhole
  /-- The whole part of what is not a number. -/
  | nanWhole
  /-- A whole number beyond the doubles. -/
  | wholeTooLarge
  /-- A quotient of whole numbers beyond the doubles. -/
  | quotientTooLarge
  /-- A separator without characters. -/
  | emptySeparator
  /-- A limit that is asked for without a value. -/
  | noLimit
  /-- A whole number written with too many digits. -/
  | wholeTooLong (digits : Nat)
  /-- A text with half of a surrogate pair, which stands for no characters. -/
  | loneHalf
  deriving DecidableEq, Repr

namespace Defect

/-- The name a defect is counted under. -/
def name : Defect → String
  | .dateOutOfRange | .infiniteWhole | .wholeTooLarge | .quotientTooLarge => "OverflowError"
  | .nanWhole | .emptySeparator | .wholeTooLong _ => "ValueError"
  | .noLimit => "TypeError"
  | .loneHalf => "UnicodeEncodeError"

/-- What is said of a defect. -/
def message : Defect → String
  | .dateOutOfRange => "date value out of range"
  | .infiniteWhole => "cannot convert float infinity to integer"
  | .nanWhole => "cannot convert float NaN to integer"
  | .wholeTooLarge => "int too large to convert to float"
  | .quotientTooLarge => "integer division result too large for a float"
  | .emptySeparator => "empty separator"
  | .noLimit => "'<=' not supported between instances of 'list' and 'int'"
  | .wholeTooLong digits =>
      "Exceeds the limit (4300 digits) for integer string conversion: value has " ++
        String.ofList (Binary64.digitsOf digits) ++
        " digits; use sys.set_int_max_str_digits() to increase the limit"
  | .loneHalf => "surrogates not allowed"

/-- The defect of taking the whole part of a double that has none. -/
def ofNoWholePart : Binary64.NoWholePart → Defect
  | .infinite => .infiniteWhole
  | .nan => .nanWhole

/-- The outcome of a calculation that only a whole number beyond the doubles leaves without one. -/
def orTooLarge {α : Type} : Option α → Except Defect α
  | some a => .ok a
  | none => .error .wholeTooLarge

end Defect

/-! ## Faults -/

/-- What is wrong with a cursor. -/
inductive CursorFlaw where
  /-- It is not the text of any bytes. -/
  | encoding
  /-- Its bytes are not a list of values. -/
  | payload
  deriving DecidableEq, Repr

/-- What an identifier names. -/
inductive Subject where
  | aip
  | transfer
  deriving DecidableEq, Repr

/-- What stopped a scan. -/
inductive StopCause where
  | caller
  | deadline
  deriving DecidableEq, Repr

/-- Why a call gives no answer. -/
inductive Fault where
  /-- The index cannot be reached, refuses, or answers with something else than a document map; the
  status is that of a refusal. -/
  | indexUnavailable (message : String) (status : Option Int)
  | indexDisabled
  | malformedCursor (flaw : CursorFlaw)
  | invalidIdentifier (subject : Subject)
  | scanCancelled (cause : StopCause)
  | defect (d : Defect)
  deriving DecidableEq, Repr

/-- How faults of one kind are reported. -/
structure Kind where
  name : String
  code : String
  errorClass : String
  retryable : Bool
  status : Nat

namespace Fault

/-- The kind of a fault; a defect has none. -/
def kind? : Fault → Option Kind
  | .indexUnavailable .. =>
      some ⟨"IndexUnavailable", "SEARCH_INDEX_UNAVAILABLE", "transient", true, 502⟩
  | .indexDisabled => some ⟨"IndexDisabled", "SEARCH_INDEX_DISABLED", "dependency", false, 503⟩
  | .malformedCursor _ =>
      some ⟨"MalformedCursor", "SEARCH_CURSOR_INVALID", "validation", false, 400⟩
  | .invalidIdentifier _ =>
      some ⟨"InvalidIdentifier", "AIP_UUID_REQUIRED", "validation", false, 400⟩
  | .scanCancelled _ => some ⟨"ScanCancelled", "SEARCH_SCAN_CANCELLED", "transient", true, 504⟩
  | .defect _ => none

/-- The name a fault is counted under. -/
def name (f : Fault) : String :=
  match f with
  | .defect d => d.name
  | f => (f.kind?.map Kind.name).getD ""

/-- What is said of a fault. -/
def message : Fault → String
  | .indexUnavailable message _ => message
  | .indexDisabled => "search index integration disabled (set APP_ES_ENABLED=true)"
  | .malformedCursor .encoding => "invalid cursor"
  | .malformedCursor .payload => "invalid cursor payload"
  | .invalidIdentifier .aip => "aip uuid required"
  | .invalidIdentifier .transfer => "transfer uuid required"
  | .scanCancelled .caller => "scan cancelled by caller"
  | .scanCancelled .deadline => "scan deadline exceeded"
  | .defect d => d.message

end Fault

end ArchiveCensus
