import ArchiveCensus.Text.Digit
import ArchiveCensus.Time.Instant
import ArchiveCensus.Json.Reading

/-!
# Time/Timestamp — timestamps as text

A timestamp is a date, a `T`, a time of day with an optional fraction, and a zone:
`2020-01-02T03:04:05.678+01:00`.

* A field may lack its leading zero; a digit that is not the only one it could be may come from any
  script.
* A fraction is read to six digits and further digits are passed over.
* A zone is `Z` or an offset of hours and minutes, and of seconds with a fraction; its parts are set
  off by colons throughout or not at all.

What does not follow the grammar, and what names no date, second or offset that exists, is absent.
A timestamp that exists but denotes an instant outside the calendar in UTC is a defect.
-/

namespace ArchiveCensus.Timestamp

open Text

/-! ## Fields

A field is one of several sequences of characters, the first that fits, and is followed by a
character that could not belong to it. -/

/-- A class of characters, with the digit each stands for. -/
abbrev DigitClass := Char → Option Nat

/-- The digits from one to another, in ASCII. -/
def between (lo hi : Nat) : DigitClass := fun c =>
  (asciiDigit? c).filter fun d => lo ≤ d && d ≤ hi

/-- A blank in the place of a digit. -/
def blank : DigitClass := fun c => if c = ' ' then some 0 else none

/-- The number read from a sequence of digit classes, and the text after it. -/
def readDigits (value : Nat) : List DigitClass → List Char → Option (Nat × List Char)
  | [], cs => some (value, cs)
  | _ :: _, [] => none
  | digit :: more, c :: cs =>
      match digit c with
      | some d => readDigits (value * 10 + d) more cs
      | none => none

/-- The number of the first of several layouts that fits and is followed by a character of
`stop`. -/
def readField (layouts : List (List DigitClass)) (stop : Char → Bool) (cs : List Char) :
    Option (Nat × List Char) :=
  layouts.findSome? fun layout =>
    match readDigits 0 layout cs with
    | some (n, c :: rest) => if stop c then some (n, c :: rest) else none
    | _ => none

/-- The number of a field and the text after the mark that follows it. -/
def readMarked (layouts : List (List DigitClass)) (mark : Char → Bool) (cs : List Char) :
    Option (Nat × List Char) :=
  (readField layouts mark cs).map fun (n, rest) => (n, rest.drop 1)

/-- Four digits. -/
def yearLayouts : List (List DigitClass) := [[digit?, digit?, digit?, digit?]]

/-- `10`–`12`, `01`–`09`, `1`–`9`. -/
def monthLayouts : List (List DigitClass) :=
  [[between 1 1, between 0 2], [between 0 0, between 1 9], [between 1 9]]

/-- `30`–`31`, `10`–`29`, `01`–`09`, `1`–`9`, and `1`–`9` after a blank. -/
def dayLayouts : List (List DigitClass) :=
  [[between 3 3, between 0 1], [between 1 2, digit?], [between 0 0, between 1 9], [between 1 9],
   [blank, between 1 9]]

/-- `20`–`23`, `00`–`19`, one digit. -/
def hourLayouts : List (List DigitClass) :=
  [[between 2 2, between 0 3], [between 0 1, digit?], [digit?]]

/-- `00`–`59`, one digit. -/
def minuteLayouts : List (List DigitClass) := [[between 0 5, digit?], [digit?]]

/-- `60`–`61`, `00`–`59`, one digit. -/
def secondLayouts : List (List DigitClass) :=
  [[between 6 6, between 0 1], [between 0 5, digit?], [digit?]]

/-- The characters that may follow the seconds. -/
def endsSeconds (c : Char) : Bool :=
  c == '.' || c == '+' || c == '-' || c == 'Z'

/-! ## Fractions -/

/-- Passes over the digits of a fraction from the seventh on, wherever a point and six digits stand:
`taken` is how many digits after a point have been kept, if any. -/
def shortenFrom (taken : Option Nat) : List Char → List Char
  | [] => []
  | c :: cs =>
      if c = '.' then c :: shortenFrom (some 0) cs
      else
        match taken, digit? c with
        | some n, some _ =>
            if n < 6 then c :: shortenFrom (some (n + 1)) cs else shortenFrom taken cs
        | _, _ => c :: shortenFrom none cs

/-- A text whose fractions have six digits at most. -/
def shorten (cs : List Char) : List Char :=
  shortenFrom none cs

/-- The microseconds of one to six digits. -/
def microsOf (value count : Nat) : Nat :=
  value * Nat.pow 10 (6 - count)

/-- The value and the number of up to `most` digits at the front of a text, and the text after
them. -/
def leadingDigits (digit : DigitClass) (value count : Nat) : Nat → List Char → Nat × Nat × List Char
  | 0, cs => (value, count, cs)
  | _ + 1, [] => (value, count, [])
  | most + 1, c :: cs =>
      match digit c with
      | some d => leadingDigits digit (value * 10 + d) (count + 1) most cs
      | none => (value, count, c :: cs)

/-- The microseconds of a fraction after its point, and the text after it; at least one digit. -/
def readFraction (digit : DigitClass) (cs : List Char) : Option (Nat × List Char) :=
  match leadingDigits digit 0 0 6 cs with
  | (_, 0, _) => none
  | (value, count, rest) => some (microsOf value count, rest)

/-! ## Zones -/

/-- Drops a colon at the front of a text and says whether one stood there. -/
def colon : List Char → Bool × List Char
  | ':' :: cs => (true, cs)
  | cs => (false, cs)

/-- The microseconds of an offset without its sign. -/
def readOffset (cs : List Char) : Option Nat := do
  let (hours, cs) ← readDigits 0 [digit?, digit?] cs
  let (first, cs) := colon cs
  let (minutes, cs) ← readDigits 0 [between 0 5, digit?] cs
  let upToMinutes := (hours * 60 + minutes) * 60
  match cs with
  | [] => return upToMinutes * microsPerSecond
  | cs =>
      let (second, cs) := colon cs
      guard (first = second)
      let (seconds, cs) ← readDigits 0 [between 0 5, digit?] cs
      let whole := (upToMinutes + seconds) * microsPerSecond
      match cs with
      | [] => return whole
      | '.' :: cs =>
          match ← readFraction digit? cs with
          | (micros, []) => return whole + micros
          | _ => none
      | _ => none

/-- The offset of a zone from UTC in microseconds, less than a day either way. -/
def readZone : List Char → Option Int
  | ['Z'] => some 0
  | c :: cs =>
      if c = '+' ∨ c = '-' then do
        let offset ← readOffset cs
        guard (offset < microsPerDay)
        return if c = '-' then -(offset : Int) else offset
      else none
  | [] => none

/-! ## Timestamps -/

/-- A date, a time of day and an offset, all of which exist. -/
structure Reading where
  date : Date
  /-- Microseconds since midnight, by the clock of the zone. -/
  micros : Nat
  /-- Microseconds that clock is ahead of UTC. -/
  offset : Int
  deriving DecidableEq

/-- What a timestamp says, if the text is one. -/
def read? (cs : List Char) : Option Reading := do
  let (year, cs) ← readMarked yearLayouts (· == '-') cs
  let (month, cs) ← readMarked monthLayouts (· == '-') cs
  let (day, cs) ← readMarked dayLayouts (fun c => c == 'T' || c == 't') cs
  let (hour, cs) ← readMarked hourLayouts (· == ':') cs
  let (minute, cs) ← readMarked minuteLayouts (· == ':') cs
  let (second, cs) ← readField secondLayouts endsSeconds cs
  let (fraction, cs) ←
    match cs with
    | '.' :: cs => readFraction asciiDigit? cs
    | cs => some (0, cs)
  let offset ← readZone cs
  let date : Date := ⟨year, month, day⟩
  guard (date.Exists ∧ second < 60)
  return ⟨date, ((hour * 60 + minute) * 60 + second) * microsPerSecond + fraction, offset⟩

/-- The instant of what a timestamp says, if it lies within the calendar. -/
def Reading.instant? (r : Reading) : Option Instant :=
  Instant.ofDay? r.date.dayNumber (r.micros - r.offset)

/-- The instant of a trimmed text: absent where it is no timestamp. -/
def ofLabel (s : String) : Except Defect (Option Instant) :=
  match read? (shorten s.toList) with
  | none => .ok none
  | some r =>
      match r.instant? with
      | some t => .ok (some t)
      | none => .error .dateOutOfRange

/-- The instant of a document that is the text of a timestamp. -/
def ofJson (j : Json) : Except Defect (Option Instant) :=
  ofLabel j.label

end ArchiveCensus.Timestamp
