import ArchiveCensus.Json.Reader

/-!
# Proofs/Json/Grammar — which texts stand for which documents

The grammar of JSON without a reader: a text stands for a document by the rule that made it, and the
rules are those of the standard, with the words for the doubles that have no digits.  The documents
are raw ones, since the standard lets an escape stand for half of a surrogate pair.

* `Spells` — a text stands for a document, for items, or for entries.
* `SpellsDocument` — a text stands for a document, blanks around it aside.
* `BreaksAt` — a text is fine up to a whole number with too many digits, whatever follows it.
* `BreaksDocument` — the same, blanks in front of it aside.
-/

namespace ArchiveCensus.Json

/-! ## Blanks -/

/-- A run of blanks, or nothing. -/
def IsGap (ws : List Char) : Prop := ∀ c ∈ ws, isGap c = true

/-! ## Quoted texts -/

/-- Whether a letter is the first half of a surrogate pair. -/
def Letter.isFirst : Letter → Bool
  | .char _ => false
  | .half u _ => isHighUnit u

/-- Whether a letter is the second half of a surrogate pair. -/
def Letter.isSecond : Letter → Bool
  | .char _ => false
  | .half u _ => isLowUnit u

/-- What stands for a letter inside a quoted text.  For a character that is itself, a short escape,
its unit, or the two units of a surrogate pair; for half of such a pair it is its unit. -/
inductive SpellsLetter : List Char → Letter → Prop where
  | plain {c : Char} : 0x20 ≤ c.toNat → c ≠ '"' → c ≠ '\\' → SpellsLetter [c] (.char c)
  | short {e c : Char} : shortEscape? e = some c → SpellsLetter ['\\', e] (.char c)
  | unit {a b c d : Char} {u : Nat} : hexUnit? a b c d = some u → isHighUnit u = false →
      isLowUnit u = false → SpellsLetter ['\\', 'u', a, b, c, d] (.char (Char.ofNat u))
  | pair {a b c d e f g h : Char} {u v : Nat} : hexUnit? a b c d = some u → isHighUnit u = true →
      hexUnit? e f g h = some v → isLowUnit v = true →
      SpellsLetter ['\\', 'u', a, b, c, d, '\\', 'u', e, f, g, h]
        (.char (Char.ofNat (0x10000 + (u - 0xD800) * 0x400 + (v - 0xDC00))))
  | half {a b c d : Char} {u : Nat} (isHalf : isHighUnit u = true ∨ isLowUnit u = true) :
      hexUnit? a b c d = some u → SpellsLetter ['\\', 'u', a, b, c, d] (.half u isHalf)

/-- What stands for letters between quotes.  The two halves of a pair do not stand side by side:
together they are a character. -/
inductive SpellsLetters : List Char → List Letter → Prop where
  | nil : SpellsLetters [] []
  | cons {mark body : List Char} {l : Letter} {ls : List Letter} : SpellsLetter mark l →
      SpellsLetters body ls →
      (l.isFirst = true → ∀ l', ls.head? = some l' → l'.isSecond = false) →
      SpellsLetters (mark ++ body) (l :: ls)

/-! ## Numbers -/

/-- One or more of the digits `0` to `9`. -/
def IsDigits (ds : List Char) : Prop := ds ≠ [] ∧ ∀ c ∈ ds, isDigit c = true

/-- A lone zero, or digits that do not start with one. -/
def IsWhole (ds : List Char) : Prop := ds = ['0'] ∨ IsDigits ds ∧ ds.head? ≠ some '0'

/-- A minus or nothing. -/
def minus (negative : Bool) : List Char := if negative then ['-'] else []

/-- A point and digits, or nothing. -/
inductive SpellsFraction : List Char → List Char → Prop where
  | absent : SpellsFraction [] []
  | digits {fs : List Char} : IsDigits fs → SpellsFraction ('.' :: fs) fs

/-- An `e`, a sign or none, and digits. -/
inductive SpellsExponent : List Char → Int → Prop where
  | mk {e : Char} {sign ds : List Char} {negative : Bool} : e = 'e' ∨ e = 'E' →
      sign = minus negative ∨ sign = ['+'] ∧ negative = false → IsDigits ds →
      SpellsExponent (e :: sign ++ ds) (Numeral.signedValue negative (digitsValue ds))

/-- A number: whole where it has neither fraction nor exponent, and then not too long. -/
inductive SpellsNumber : List Char → Number → Prop where
  | whole {ds : List Char} (negative : Bool) : IsWhole ds → ds.length ≤ Numeral.maxDigits →
      SpellsNumber (minus negative ++ ds) (.whole (Numeral.signedValue negative (digitsValue ds)))
  | fraction {ds fs : List Char} (negative : Bool) : IsWhole ds → IsDigits fs →
      SpellsNumber (minus negative ++ (ds ++ '.' :: fs))
        (.double (.ofDecimal negative (digitsValue (ds ++ fs)) (-fs.length)))
  | exponent {ds ft fs et : List Char} {e : Int} (negative : Bool) : IsWhole ds →
      SpellsFraction ft fs → SpellsExponent et e →
      SpellsNumber (minus negative ++ (ds ++ (ft ++ et)))
        (.double (.ofDecimal negative (digitsValue (ds ++ fs)) (e - fs.length)))

/-- Nothing at the front of a text carries on the number before it. -/
structure EndsNumber (rest : List Char) : Prop where
  digit : ∀ c, rest.head? = some c → isDigit c = false
  fraction : ∀ fs more, IsDigits fs → rest ≠ '.' :: fs ++ more
  exponent : ∀ et e more, SpellsExponent et e → rest ≠ et ++ more

/-! ## Documents -/

/-- What a stretch of text stands for. -/
inductive Part where
  | value (r : Raw)
  | items (rs : List Raw)
  | entries (es : List (List Letter × Raw))

/-- A key in quotes, and the colon after it. -/
inductive SpellsKey : List Char → List Letter → Prop where
  | mk {body ws ws' : List Char} {key : List Letter} : SpellsLetters body key → IsGap ws →
      IsGap ws' → SpellsKey ('"' :: body ++ '"' :: ws ++ ':' :: ws') key

/-- What a text stands for.  Items and entries are without the brackets around them, and a key that
comes twice has the last of its values at the first of its places. -/
inductive Spells : List Char → Part → Prop where
  | null : Spells "null".toList (.value .null)
  | true : Spells "true".toList (.value (.bool true))
  | false : Spells "false".toList (.value (.bool false))
  | nan : Spells "NaN".toList (.value (.num (.double .nan)))
  | infinity : Spells "Infinity".toList (.value (.num (.double (.infinite false))))
  | minusInfinity : Spells "-Infinity".toList (.value (.num (.double (.infinite true))))
  | number {cs : List Char} {n : Number} : SpellsNumber cs n → Spells cs (.value (.num n))
  | text {body : List Char} {ls : List Letter} : SpellsLetters body ls →
      Spells ('"' :: body ++ ['"']) (.value (.str ls))
  | noItems {ws : List Char} : IsGap ws → Spells ('[' :: ws ++ [']']) (.value (.arr []))
  | list {ws cs : List Char} {rs : List Raw} : IsGap ws → Spells cs (.items rs) →
      Spells ('[' :: ws ++ cs ++ [']']) (.value (.arr rs))
  | noEntries {ws : List Char} : IsGap ws → Spells ('{' :: ws ++ ['}']) (.value (.obj []))
  | map {ws cs : List Char} {es : List (List Letter × Raw)} : IsGap ws → Spells cs (.entries es) →
      Spells ('{' :: ws ++ cs ++ ['}']) (.value (.obj (ofPairs es)))
  | item {cs ws : List Char} {r : Raw} : Spells cs (.value r) → IsGap ws →
      Spells (cs ++ ws) (.items [r])
  | moreItems {cs ws ws' rest : List Char} {r : Raw} {rs : List Raw} : Spells cs (.value r) →
      IsGap ws → IsGap ws' → Spells rest (.items rs) →
      Spells (cs ++ ws ++ ',' :: ws' ++ rest) (.items (r :: rs))
  | entry {kt cs ws : List Char} {k : List Letter} {r : Raw} : SpellsKey kt k →
      Spells cs (.value r) → IsGap ws → Spells (kt ++ cs ++ ws) (.entries [(k, r)])
  | moreEntries {kt cs ws ws' rest : List Char} {k : List Letter} {r : Raw}
      {es : List (List Letter × Raw)} : SpellsKey kt k → Spells cs (.value r) → IsGap ws →
      IsGap ws' → Spells rest (.entries es) →
      Spells (kt ++ cs ++ ws ++ ',' :: ws' ++ rest) (.entries ((k, r) :: es))

/-- A text stands for a document when only blanks are around what does. -/
def SpellsDocument (cs : List Char) (r : Raw) : Prop :=
  ∃ ws text ws', IsGap ws ∧ IsGap ws' ∧ Spells text (.value r) ∧ cs = ws ++ text ++ ws'

/-! ## Whole numbers that are too long -/

/-- Where in a document a stretch of text stands. -/
inductive Place where
  | value
  | items
  | entries

/-- A text is fine up to a whole number with so many digits, which are too many.  What comes behind
that number does not matter. -/
inductive BreaksAt (digits : Nat) : Place → List Char → Prop where
  | number {ds rest : List Char} (negative : Bool) : IsWhole ds → ds.length = digits →
      Numeral.maxDigits < digits → EndsNumber rest →
      BreaksAt digits .value (minus negative ++ (ds ++ rest))
  | list {ws cs : List Char} : IsGap ws → BreaksAt digits .items cs →
      BreaksAt digits .value ('[' :: ws ++ cs)
  | map {ws cs : List Char} : IsGap ws → BreaksAt digits .entries cs →
      BreaksAt digits .value ('{' :: ws ++ cs)
  | item {cs : List Char} : BreaksAt digits .value cs → BreaksAt digits .items cs
  | moreItems {cs ws ws' rest : List Char} {r : Raw} : Spells cs (.value r) → IsGap ws →
      IsGap ws' → BreaksAt digits .items rest →
      BreaksAt digits .items (cs ++ ws ++ ',' :: ws' ++ rest)
  | entry {kt cs : List Char} {k : List Letter} : SpellsKey kt k → BreaksAt digits .value cs →
      BreaksAt digits .entries (kt ++ cs)
  | moreEntries {kt cs ws ws' rest : List Char} {k : List Letter} {r : Raw} : SpellsKey kt k →
      Spells cs (.value r) → IsGap ws → IsGap ws' → BreaksAt digits .entries rest →
      BreaksAt digits .entries (kt ++ cs ++ ws ++ ',' :: ws' ++ rest)

/-- A text has nothing but blanks in front of where it breaks. -/
def BreaksDocument (digits : Nat) (cs : List Char) : Prop :=
  ∃ ws rest, IsGap ws ∧ BreaksAt digits .value rest ∧ cs = ws ++ rest

end ArchiveCensus.Json
