import Mathlib.Data.List.Nodup
import ArchiveCensus.Json.Writer
import ArchiveCensus.Proofs.Json.Raw
import ArchiveCensus.Proofs.Json.Reader

/-!
# Proofs/Json/Writer — what is written stands for the document

* `Exact` — a document without doubles whose whole numbers are not too long and whose maps have each
  key once.
* `spells_write` — the text of an exact document stands for it, in either style.
* `parse_write` — so the reader gives the document back.

The text of a double is left out: which decimals are the shortest is no matter of the grammar.
-/

namespace ArchiveCensus.Json

open Text Outcome

/-! ## Exact documents -/

/-- A document whose text stands for nothing else: no doubles, no whole number with too many digits,
and each key of a map once. -/
inductive Exact : Json → Prop where
  | null : Exact .null
  | bool (b : Bool) : Exact (.bool b)
  | whole {z : Int} : (Binary64.digitsOf z.natAbs).length ≤ Numeral.maxDigits →
      Exact (.num (.whole z))
  | str (s : String) : Exact (.str s)
  | arr {items : List Json} : (∀ j ∈ items, Exact j) → Exact (.arr items)
  | obj {entries : List (String × Json)} : (entries.map Prod.fst).Nodup →
      (∀ e ∈ entries, Exact e.2) → Exact (.obj entries)

section

variable {κ ν : Type} [DecidableEq κ]

theorem put_of_notMem {key : κ} {value : ν} :
    ∀ {entries : List (κ × ν)}, key ∉ entries.map Prod.fst →
      put key value entries = entries ++ [(key, value)]
  | [], _ => rfl
  | (k, v) :: rest, h => by
      simp only [List.map_cons, List.mem_cons, not_or] at h
      rw [put, if_neg (Ne.symm h.1), put_of_notMem h.2, List.cons_append]

theorem foldl_put_of_nodup :
    ∀ (pairs entries : List (κ × ν)), ((entries ++ pairs).map Prod.fst).Nodup →
      pairs.foldl (fun entries (key, value) => put key value entries) entries = entries ++ pairs
  | [], entries, _ => by simp
  | (k, v) :: rest, entries, h => by
      have hk : k ∉ entries.map Prod.fst := by
        rw [List.map_append, List.map_cons, List.nodup_append] at h
        exact fun hmem => h.2.2 _ hmem _ (List.mem_cons_self ..) rfl
      have hrest : ((entries ++ [(k, v)] ++ rest).map Prod.fst).Nodup := by simpa using h
      rw [List.foldl_cons]
      dsimp only
      rw [put_of_notMem hk, foldl_put_of_nodup rest _ hrest, List.append_assoc,
        List.singleton_append]

/-- **Pairs with each key once are the entries of their map.** -/
theorem ofPairs_of_nodup {pairs : List (κ × ν)} (h : (pairs.map Prod.fst).Nodup) :
    ofPairs pairs = pairs :=
  foldl_put_of_nodup pairs [] h

end

/-- So are the raw forms of pairs with each key once. -/
theorem ofPairs_entriesOfJson {entries : List (String × Json)}
    (h : (entries.map Prod.fst).Nodup) :
    ofPairs (Raw.entriesOfJson entries) = Raw.entriesOfJson entries := by
  refine ofPairs_of_nodup ?_
  have hkeys : (Raw.entriesOfJson entries).map Prod.fst =
      (entries.map Prod.fst).map Letter.ofText := by
    rw [Raw.entriesOfJson_eq, List.map_map, List.map_map]
    rfl
  exact hkeys ▸ h.map Letter.ofText_injective

/-! ## Whole numbers -/

theorem isDigit_of_mem_digitsOf {n : Nat} {c : Char} (h : c ∈ Binary64.digitsOf n) :
    isDigit c = true := by
  have hc := Nat.isDigit_of_mem_toDigits (by decide) (by decide) h
  rw [Char.isDigit_iff_toNat] at hc
  have hbounds : 0x30 ≤ c.toNat ∧ c.toNat < 0x3A := ⟨hc.1, Nat.lt_succ_of_le hc.2⟩
  rw [isDigit, asciiDigit?, if_pos hbounds, Option.isSome_some]

theorem digitChar_ne_zero : ∀ d < 10, 0 < d → d.digitChar ≠ '0' := by decide

/-- Only the digits of zero start with one, since the first of them are those of a tenth. -/
theorem head?_digitsOf_ne (n : Nat) (h : 0 < n) : (Binary64.digitsOf n).head? ≠ some '0' := by
  induction n using Nat.strongRecOn with
  | ind n ih =>
    by_cases hn : n < 10
    · rw [Binary64.digitsOf, Nat.toDigits_of_lt_base hn]
      simpa using digitChar_ne_zero n hn h
    · rw [Binary64.digitsOf, Nat.toDigits_of_base_le (by decide) (by omega),
        List.head?_append_of_ne_nil _ Nat.toDigits_ne_nil]
      exact ih (n / 10) (by omega) (by omega)

/-- The digits of a number are a lone zero, or do not start with one. -/
theorem isWhole_digitsOf (n : Nat) : IsWhole (Binary64.digitsOf n) := by
  obtain rfl | hn := Nat.eq_zero_or_pos n
  · exact .inl rfl
  · exact .inr ⟨⟨Nat.toDigits_ne_nil, fun _ => isDigit_of_mem_digitsOf⟩, head?_digitsOf_ne n hn⟩

/-- The digits of a number have its value. -/
theorem digitsValue_digitsOf (n : Nat) : digitsValue (Binary64.digitsOf n) = n := by
  have h := Nat.ofDigitChars_ten_toDigits (n := n)
  rw [Nat.ofDigitChars_eq_foldl] at h
  simpa [digitsValue, Binary64.digitsOf, Nat.mul_comm] using h

theorem signedValue_natAbs (z : Int) : Numeral.signedValue (decide (z < 0)) z.natAbs = z := by
  rw [Numeral.signedValue]
  by_cases hz : z < 0
  · rw [if_pos (decide_eq_true hz)]
    omega
  · rw [if_neg (by simpa using hz)]
    omega

theorem spells_wholeText {z : Int} (h : (Binary64.digitsOf z.natAbs).length ≤ Numeral.maxDigits) :
    Spells (Number.wholeText z) (.value (.num (.whole z))) := by
  have hspells := SpellsNumber.whole (decide (z < 0)) (isWhole_digitsOf z.natAbs) h
  rw [digitsValue_digitsOf, signedValue_natAbs] at hspells
  have htext : Number.wholeText z = minus (decide (z < 0)) ++ Binary64.digitsOf z.natAbs := by
    by_cases hz : z < 0 <;> simp [Number.wholeText, minus, hz]
  exact htext ▸ .number hspells

/-! ## Quoted texts -/

theorem hexUnit?_hexText : ∀ n < 0x20,
    ∃ a b c d, hexText n 4 = [a, b, c, d] ∧ hexUnit? a b c d = some n := by
  intro n hn
  refine ⟨_, _, _, _, rfl, ?_⟩
  revert n
  decide

/-- What is written for a character stands for it. -/
theorem spellsLetter_quoteChar (c : Char) : SpellsLetter (quoteChar c) (.char c) := by
  unfold quoteChar
  split_ifs with hquote hslash hline hreturn htab hback hfeed hcontrol
  · subst hquote
    exact .short rfl
  · subst hslash
    exact .short rfl
  · subst hline
    exact .short rfl
  · subst hreturn
    exact .short rfl
  · subst htab
    exact .short rfl
  · subst hback
    exact .short rfl
  · subst hfeed
    exact .short rfl
  · obtain ⟨a, b, c', d, htext, hunit⟩ := hexUnit?_hexText c.toNat hcontrol
    have hspells := SpellsLetter.unit hunit
      (by simp only [isHighUnit, Bool.and_eq_false_imp, decide_eq_true_eq]; omega)
      (by simp only [isLowUnit, Bool.and_eq_false_imp, decide_eq_true_eq]; omega)
    rwa [Char.ofNat_toNat, ← htext] at hspells
  · exact .plain (Nat.le_of_not_lt hcontrol) hquote hslash

/-- What is written for characters stands for them: none is half of a pair. -/
theorem spellsLetters_flatMap :
    ∀ cs : List Char, SpellsLetters (cs.flatMap quoteChar) (cs.map .char)
  | [] => .nil
  | c :: cs => by
      rw [List.flatMap_cons]
      exact .cons (spellsLetter_quoteChar c) (spellsLetters_flatMap cs) nofun

theorem spells_quote (s : String) : Spells (quote s) (.value (.str (Letter.ofText s))) :=
  .text (spellsLetters_flatMap s.toList)

/-! ## Documents -/

/-- A style whose separators are a comma and a colon, each with a gap behind it. -/
structure Style.Plain (style : Style) : Prop where
  item : ∃ ws, IsGap ws ∧ style.item = ',' :: ws
  entry : ∃ ws, IsGap ws ∧ style.entry = ':' :: ws

theorem plain_compact : compact.Plain :=
  ⟨⟨[], by simp [IsGap], rfl⟩, ⟨[], by simp [IsGap], rfl⟩⟩

theorem isGap_nil : IsGap [] := by simp [IsGap]

section

variable {style : Style} (hstyle : style.Plain)

include hstyle

theorem spells_writeItems :
    ∀ {items : List Json}, items ≠ [] →
      (∀ j ∈ items, Spells (write style j) (.value (.ofJson j))) →
      Spells (writeItems style items) (.items (Raw.itemsOfJson items))
  | [j], _, h => by
      simpa [writeItems, Raw.itemsOfJson] using Spells.item (h j (by simp)) isGap_nil
  | j :: j' :: rest, _, h => by
      obtain ⟨ws, hws, hitem⟩ := hstyle.item
      have hrest := spells_writeItems (List.cons_ne_nil j' rest) fun i hi => h i (by simp [hi])
      simpa [writeItems, Raw.itemsOfJson, hitem] using
        Spells.moreItems (h j (by simp)) isGap_nil hws hrest

theorem spellsKey_quote (k : String) : SpellsKey (quote k ++ style.entry) (Letter.ofText k) := by
  obtain ⟨ws, hws, hentry⟩ := hstyle.entry
  have h := SpellsKey.mk (spellsLetters_flatMap k.toList) isGap_nil hws
  simpa [quote, Letter.ofText, hentry] using h

theorem spells_writeEntries :
    ∀ {entries : List (String × Json)}, entries ≠ [] →
      (∀ e ∈ entries, Spells (write style e.2) (.value (.ofJson e.2))) →
      Spells (writeEntries style entries) (.entries (Raw.entriesOfJson entries))
  | [(k, v)], _, h => by
      simpa [writeEntries, Raw.entriesOfJson] using
        Spells.entry (spellsKey_quote hstyle k) (h (k, v) (by simp)) isGap_nil
  | (k, v) :: e :: rest, _, h => by
      obtain ⟨ws, hws, hitem⟩ := hstyle.item
      have hrest := spells_writeEntries (List.cons_ne_nil e rest) fun i hi => h i (by simp [hi])
      simpa [writeEntries, Raw.entriesOfJson, hitem] using
        Spells.moreEntries (spellsKey_quote hstyle k) (h (k, v) (by simp)) isGap_nil hws hrest

/-- **The text of an exact document stands for it.** -/
theorem spells_write {j : Json} (h : Exact j) : Spells (write style j) (.value (.ofJson j)) := by
  induction h with
  | null =>
    rw [write]
    exact .null
  | bool b =>
    cases b <;> rw [write]
    · exact .false
    · exact .true
  | whole hlength =>
    rw [write]
    exact spells_wholeText hlength
  | str s =>
    rw [write]
    exact spells_quote s
  | @arr items _ ih =>
    rw [write]
    cases items with
    | nil => exact .noItems isGap_nil
    | cons j rest => exact .list isGap_nil (spells_writeItems hstyle (List.cons_ne_nil _ _) ih)
  | @obj entries hkeys _ ih =>
    rw [write]
    cases entries with
    | nil => exact .noEntries isGap_nil
    | cons e rest =>
      have hspells := Spells.map isGap_nil (spells_writeEntries hstyle (List.cons_ne_nil _ _) ih)
      rwa [ofPairs_entriesOfJson hkeys] at hspells

/-- **An exact document is read back from its text.** -/
theorem parse_write {j : Json} (h : Exact j) : parse (write style j) = .ok (.ofJson j) :=
  parse_eq_ok_iff.2 ⟨[], _, [], isGap_nil, isGap_nil, spells_write hstyle h, by simp⟩

end

end ArchiveCensus.Json
