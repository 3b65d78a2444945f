import ArchiveCensus.Fault
import ArchiveCensus.Time.Calendar

/-!
# Time/Instant — points in time

An instant is a whole number of microseconds since the start of the year 1, and lies before the end
of the year 9999; the range is part of the type.

* `ofSeconds?` is the instant some seconds after the start of 1970.
* `text` is the instant in UTC, to the second.
* `secondsAfter` is the whole number of seconds between two instants.
-/

namespace ArchiveCensus

/-- Microseconds in a second. -/
def microsPerSecond : Nat := 1000000

/-- Microseconds in a day. -/
def microsPerDay : Nat := 86400 * microsPerSecond

/-- A point in time. -/
structure Instant where
  /-- Microseconds since the start of the year 1. -/
  micros : Nat
  inRange : micros < 3652059 * microsPerDay
  deriving DecidableEq

namespace Instant

/-- The instant of a signed number of microseconds, if it is in range. -/
def ofMicros? (m : Int) : Option Instant :=
  if h : 0 ≤ m ∧ m < (3652059 * microsPerDay : Nat) then some ⟨m.toNat, by omega⟩ else none

/-- The instant at a number of microseconds into a day counted from day 0. -/
def ofDay? (day : Nat) (micros : Int) : Option Instant :=
  ofMicros? ((day * microsPerDay : Nat) + micros)

/-- The first day of 1970. -/
def epochDay : Nat := 719162

/-- The instant a positive number of seconds after the start of 1970, to the nearest microsecond:
the fraction of the seconds is scaled as a double and then rounded, a half going to the even
neighbour.  Zero and less count as absent, and so does what is out of range. -/
def ofSeconds? (x : Binary64) : Option Instant :=
  match x with
  | .finite false units =>
      if units = 0 then none
      else
        let micros := (x.fraction.mul (.ofInt microsPerSecond)).nearestWhole
        ofDay? epochDay (x.wholePart * microsPerSecond + micros)
  | _ => none

/-! ## Order and distance -/

/-- Whether one instant comes before another. -/
def before (a b : Instant) : Bool := a.micros < b.micros

/-- The whole seconds from `earlier` to `later`: the microseconds as a double of seconds, cut
off. -/
def secondsAfter (later earlier : Instant) : Int :=
  (Binary64.ofQuotient ((later.micros : Int) - earlier.micros) microsPerSecond).wholePart

/-! ## The parts of an instant -/

/-- The date in UTC. -/
def date (t : Instant) : Date := Date.ofDayNumber (t.micros / microsPerDay)

/-- The second of the day. -/
def secondOfDay (t : Instant) : Nat := t.micros % microsPerDay / microsPerSecond

/-- The microseconds within the second. -/
def subsecond (t : Instant) : Nat := t.micros % microsPerSecond

/-- The instant at the start of the second. -/
def toSecond (t : Instant) : Instant :=
  ⟨t.micros - t.subsecond, by have := t.inRange; omega⟩

/-! ## Text -/

/-- A number in decimal, with zeros in front up to a width. -/
def padded (width n : Nat) : List Char :=
  let ds := Binary64.digitsOf n
  List.replicate (width - ds.length) '0' ++ ds

/-- The date and the time of day, to the second, with the year to a width. -/
def clockText (yearWidth : Nat) (t : Instant) : List Char :=
  let d := t.date
  let s := t.secondOfDay
  padded yearWidth d.year ++ '-' :: padded 2 d.month ++ '-' :: padded 2 d.day ++
    'T' :: padded 2 (s / 3600) ++ ':' :: padded 2 (s / 60 % 60) ++ ':' :: padded 2 (s % 60)

/-- The instant in UTC, to the second.  The year has no zeros in front of it. -/
def text (t : Instant) : String :=
  String.ofList (clockText 0 t ++ ['Z'])

/-- The instant in UTC, with four digits of year and six of fraction. -/
def fullText (t : Instant) : String :=
  String.ofList (clockText 4 t ++ '.' :: padded 6 t.subsecond ++ "+00:00".toList)

/-- The text of a date that may be absent; absent is empty. -/
def textOf : Option Instant → String
  | some t => t.text
  | none => ""

end Instant

end ArchiveCensus
