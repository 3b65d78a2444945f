import ArchiveCensus.Number.Numeral
import ArchiveCensus.Service.Authority
import ArchiveCensus.Text.Blank
import ArchiveCensus.Text.Percent

/-!
# Service/Target — what a request is about

The target of a request is a path and a query.  It may be written with the scheme and the authority
of the service in front.

* `path` — a target that names both a scheme and a host has the path it says; any other path starts
  at the root, with one slash.  Segments of dots are worked off, and then the path is decoded, once
  on the way and once on arrival.
* `value?` — a value of the query is the last one given, decoded once.
* `loggedPath?` — the path behind the host that a request asks for, as it is logged.
* `queryNumber?` — the whole number that a value stands for.
-/

namespace ArchiveCensus

open Text

/-- The target of a request, decoded. -/
structure Target where
  path : List Char
  query : List (String × String)

namespace Target

/-! ## Paths -/

/-- The scheme of a target and what is after its colon; no scheme where there is none. -/
def splitScheme (cs : List Char) : List Char × List Char :=
  let isPart (c : Char) := c.isAlphanum || c == '+' || c == '-' || c == '.'
  match cs.takeWhile isPart, cs.dropWhile isPart with
  | [], ':' :: rest => ([], rest)
  | c :: scheme, ':' :: rest => if c.isAlpha then (c :: scheme, rest) else ([], cs)
  | _, _ => ([], cs)

/-- The authority of a target without its scheme, and the path after it. -/
def splitAuthority : List Char → List Char × List Char
  | '/' :: '/' :: rest => (rest.takeWhile (· != '/'), rest.dropWhile (· != '/'))
  | path => ([], path)

/-- The segments of a path after some others, the last of which is first: one dot says nothing, and
two dots take back the segment before, but never the root. -/
def resolveFrom (done : List (List Char)) : List (List Char) → List (List Char)
  | [] => done.reverse
  | segment :: rest =>
      if segment = ['.'] then resolveFrom done rest
      else if segment = ['.', '.'] then
        resolveFrom (if done = [[]] then done else done.drop 1) rest
      else resolveFrom (segment :: done) rest

/-- No segment of dots is left where there was none before. -/
theorem not_dots_of_mem_resolveFrom {s : List Char} :
    ∀ {segments done : List (List Char)}, (∀ t ∈ done, t ≠ ['.'] ∧ t ≠ ['.', '.']) →
      s ∈ resolveFrom done segments → s ≠ ['.'] ∧ s ≠ ['.', '.']
  | [], done, hdone, hs => hdone s (List.mem_reverse.1 hs)
  | segment :: rest, done, hdone, hs => by
      rw [resolveFrom] at hs
      split at hs
      · exact not_dots_of_mem_resolveFrom hdone hs
      · rename_i h1
        split at hs
        · refine not_dots_of_mem_resolveFrom (fun t ht => ?_) hs
          split at ht
          · exact hdone t ht
          · exact hdone t (List.mem_of_mem_drop ht)
        · rename_i h2
          refine not_dots_of_mem_resolveFrom (fun t ht => ?_) hs
          rcases List.mem_cons.1 ht with rfl | ht
          · exact ⟨h1, h2⟩
          · exact hdone t ht

/-- A path with its segments of dots worked off. -/
def resolve (path : List Char) : List Char :=
  List.intercalate ['/'] (resolveFrom [] (path.splitOn '/'))

/-- A path from the root, however many slashes it starts with. -/
def fromRoot (path : List Char) : List Char := resolve ('/' :: path.dropWhile (· == '/'))

/-- The path of a target without its query, before it is decoded.  A path behind a scheme or an
authority has its dots worked off on its own. -/
def writtenPath (cs : List Char) : List Char :=
  let (scheme, rest) := splitScheme cs
  let (authority, path) := splitAuthority rest
  if !scheme.isEmpty && Authority.namesHost authority then resolve path
  else if !scheme.isEmpty || Authority.namesAny authority then fromRoot (resolve path)
  else fromRoot path

/-- The path of a target without its query. -/
def pathOf (cs : List Char) : List Char :=
  let path := match writtenPath cs with
    | [] => ['/']
    | path => path
  Percent.decode (Percent.decode path)

/-! ## Queries -/

/-- A part of a query, decoded; a plus stands for a blank. -/
def decodePart (cs : List Char) : String :=
  String.ofList (Percent.decode (cs.map fun c => if c = '+' then ' ' else c))

/-- The name and the value of a segment of a query. -/
def parameter (segment : List Char) : String × String :=
  (decodePart (segment.takeWhile (· != '=')), decodePart ((segment.dropWhile (· != '=')).drop 1))

/-- The target of a text: what follows a number sign is no part of it. -/
def ofText (s : String) : Target :=
  let cs := s.toList.takeWhile (· != '#')
  let query := (cs.dropWhile (· != '?')).drop 1
  { path := pathOf (cs.takeWhile (· != '?'))
    query := ((query.splitOn '&').filter (!·.isEmpty)).map parameter }

/-- The value of a name in the query. -/
def value? (t : Target) (name : String) : Option String := t.query.reverse.lookup name

/-- The path as it is logged: what stands behind the authority once the host that the request asks
for is put in front of it, up to a question mark or a number sign, without tabs and line ends.  None
where the authority is not sound. -/
def loggedPath? (t : Target) (host : String) : Option String :=
  let address := (host.toList ++ t.path).filter fun c => c != '\t' && c != '\n' && c != '\r'
  let isAuthority (c : Char) := c != '/' && c != '?' && c != '#'
  let authority := address.takeWhile isAuthority
  if Authority.isSound authority then
    let path := (address.dropWhile isAuthority).takeWhile fun c => c != '?' && c != '#'
    some (String.ofList path)
  else none

/-! ## Whole numbers in a query -/

/-- A numeral after a zero at its front, or after more of them and low lines, the last of which is
`last`: what another digit or a minus starts, or else `last` and what is left. -/
def afterZeros (last : Char) : List Char → List Char
  | [] => [last]
  | c :: rest =>
      if c = '0' ∨ c = '_' then afterZeros c rest
      else if c = '-' ∨ (asciiDigit? c).isSome then c :: rest
      else last :: c :: rest

/-- A numeral without the zeros at its front that say nothing. -/
def withoutZeros : List Char → List Char
  | '0' :: rest => afterZeros '0' rest
  | cs => cs

/-- What may follow a whole number: nothing, or a point and zeros. -/
def isZeroFraction : List Char → Bool
  | [] => true
  | '.' :: zeros => !zeros.isEmpty && zeros.all (· == '0')
  | _ => false

/-- The whole number of a run of digits with a sign.  A minus sign takes the place of a digit. -/
def signedNumber? (negative : Bool) (cs : List Char) : Option Int := do
  let run ← Numeral.run? asciiDigit? cs
  if isZeroFraction run.rest && run.count + negative.toNat ≤ Numeral.maxDigits then
    return Numeral.signedValue negative run.value
  else none

/-- The digits behind a minus that follows zeros: one low line may come first, and a zero at their
front only stands alone. -/
def digitsAfterMinus? (cs : List Char) : Option (List Char) :=
  let digits := match cs with
    | '_' :: rest => rest
    | _ => cs
  match digits with
  | '0' :: c :: _ => if c = '.' then some digits else none
  | _ => some digits

/-- The whole number of a text of a query, with blanks around it.  Zeros at the front take no place,
and a minus may also follow them where no minus stands before them. -/
def queryNumber? (s : String) : Option Int :=
  let (negative, unsigned) := Numeral.sign (strip isBlank s.toList)
  match negative, unsigned, withoutZeros unsigned with
  | false, '0' :: _, '-' :: rest => (digitsAfterMinus? rest).bind (signedNumber? true)
  | _, _, digits => signedNumber? negative digits

end Target

end ArchiveCensus
