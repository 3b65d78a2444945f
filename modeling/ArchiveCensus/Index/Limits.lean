/-!
# Index/Limits — how much is asked for

A call says how much it wants, or leaves it open; `clamp` keeps that between one and a maximum.  The
limits hold the maxima, what is taken where a call leaves it open, and how many pages a call may
fetch.
-/

namespace ArchiveCensus

/-- The bounds of listings and scans. -/
structure Limits where
  listDefault : Int
  listMax : Int
  /-- How many documents are fetched for each package that is wanted. -/
  listOverfetch : Int
  listMaxPages : Int
  scanDefaultPage : Int
  scanMaxPage : Int
  scanMaxPages : Int
  deriving DecidableEq, Repr

namespace Limits

/-- The limits where nothing else is set. -/
def standard : Limits :=
  { listDefault := 100
    listMax := 500
    listOverfetch := 3
    listMaxPages := 10
    scanDefaultPage := 500
    scanMaxPage := 2000
    scanMaxPages := 1000 }

/-- What is wanted, or the default where nothing or nothing positive is; at most the maximum, and at
least one. -/
def clamp {α : Type} [LE α] [DecidableLE α] [Min α] [Max α] [OfNat α 0] [OfNat α 1]
    (wanted : Option α) (default maximum : α) : α :=
  let value := match wanted with
    | some value => if value ≤ 0 then default else value
    | none => default
  max 1 (min value maximum)

/-- **A clamped number is at least one.** -/
theorem one_le_clamp (wanted : Option Int) (default maximum : Int) :
    1 ≤ clamp wanted default maximum := by
  simp only [clamp]
  omega

/-- What is wanted is kept where it lies within the bounds. -/
theorem clamp_eq_self {value maximum : Int} (default : Int) (h : 1 ≤ value) (h' : value ≤ maximum) :
    clamp (some value) default maximum = value := by
  simp only [clamp]
  omega

/-- A clamped number does not exceed a positive maximum. -/
theorem clamp_le (wanted : Option Int) (default : Int) {maximum : Int} (h : 1 ≤ maximum) :
    clamp wanted default maximum ≤ maximum := by
  simp only [clamp]
  omega

end Limits

end ArchiveCensus
