import ArchiveCensus.Text.Percent
import ArchiveCensus.Text.Suffix

/-!
# Service/Authority — whom an address speaks to

The authority of an address stands between its scheme and its path.  It names a host, with a user
in front, up to the last at sign, and a port behind, from a colon on.

* `namesHost` — whether there is a host at all.
* `isSound` — square brackets come in pairs, and hold a host that is written in numbers: eight
  groups of sixteen bits (`isGrouped`), or a form that is still to come (`isFuture`).
-/

namespace ArchiveCensus.Authority

open Text

/-! ## The parts of an authority -/

/-- The host and the port of an authority, which stand behind the user. -/
def site (authority : List Char) : List Char := afterLast (· == '@') authority

/-- Whether an authority names a host. -/
def namesHost (authority : List Char) : Bool :=
  match site authority with
  | [] | ':' :: _ => false
  | _ => true

/-- Whether an authority names anything: a user, a host or a port. -/
def namesAny (authority : List Char) : Bool :=
  !(["", "@", ":", "@:"].contains (String.ofList authority))

/-! ## Hosts in numbers -/

/-- Whether a character is a hexadecimal digit. -/
def isHex (c : Char) : Bool := (Percent.hexDigit? c).isSome

/-- Whether a text is a group of sixteen bits: one to four hexadecimal digits. -/
def isGroup (cs : List Char) : Bool := !cs.isEmpty && cs.length ≤ 4 && cs.all isHex

/-- Whether a text is an octet: the decimal text of a number below 256. -/
def isOctet (cs : List Char) : Bool := (List.range 256).any fun n => Nat.toDigits 10 n == cs

/-- Whether a text is four octets between points. -/
def isDotted (cs : List Char) : Bool :=
  let octets := cs.splitOn '.'
  octets.length == 4 && octets.all isOctet

/-- How many groups some texts stand for, if they stand for groups.  The last text may be dotted
where this is allowed, and stands for two groups then. -/
def groupCount? (dotted : Bool) : List (List Char) → Option Nat
  | [] => some 0
  | [last] => if isGroup last then some 1 else if dotted && isDotted last then some 2 else none
  | group :: rest => if isGroup group then (groupCount? dotted rest).map (· + 1) else none

/-- The texts between the colons of a text; an empty text has none. -/
def groups (cs : List Char) : List (List Char) := if cs.isEmpty then [] else cs.splitOn ':'

/-- What is before and after the first pair of colons. -/
def splitGap? : List Char → Option (List Char × List Char)
  | ':' :: ':' :: rest => some ([], rest)
  | c :: rest => (splitGap? rest).map fun (front, back) => (c :: front, back)
  | [] => none

/-- Whether a text is a host of eight groups.  A pair of colons stands for the groups that are left
out, of which there is at least one. -/
def isGrouped (cs : List Char) : Bool :=
  match splitGap? cs with
  | none => groupCount? true (groups cs) == some 8
  | some (front, back) =>
      match groupCount? false (groups front), groupCount? true (groups back) with
      | some m, some n => m + n < 8
      | _, _ => false

/-- Whether a text is a host of eight groups, in a zone or not. -/
def isZoned (cs : List Char) : Bool :=
  match cs.dropWhile (· != '%') with
  | [] => isGrouped cs
  | _ :: zone => !zone.isEmpty && !zone.contains '%' && isGrouped (cs.takeWhile (· != '%'))

/-- Whether a text is a host in a form that is still to come: a `v`, the version of the form in
hexadecimal, a point, and more. -/
def isFuture : List Char → Bool
  | 'v' :: rest =>
      match rest.takeWhile isHex, rest.dropWhile isHex with
      | _ :: _, '.' :: _ :: _ => true
      | _, _ => false
  | _ => false

/-! ## Brackets -/

/-- The host of an authority that has brackets: what they hold, with nothing in front of them and
only a port behind; what is before a port where they belong to the user. -/
def bracketed? (authority : List Char) : Option (List Char) :=
  match site authority with
  | '[' :: rest =>
      match (rest.dropWhile (· != ']')).drop 1 with
      | [] | ':' :: _ => some (rest.takeWhile (· != ']'))
      | _ => none
  | host => if host.contains '[' then none else some (host.takeWhile (· != ':'))

/-- Whether an authority has no brackets, or has them around a host in numbers. -/
def isSound (authority : List Char) : Bool :=
  if authority.contains '[' && authority.contains ']' then
    (bracketed? authority).any fun host => isFuture host || isZoned host
  else !authority.contains '[' && !authority.contains ']'

end ArchiveCensus.Authority
