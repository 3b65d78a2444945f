import Mathlib.Data.List.Basic
import ArchiveCensus.Proofs.Json.Leaves

/-!
# Proofs/Json/Reader — the reader takes exactly the grammar

* `parse_eq_ok_iff` — the reader gives a document exactly where the text stands for it.
* `parse_eq_wholeTooLong_iff` — it stops at a whole number that is too long exactly where the text
  is fine up to one.

From a reading to the rules the induction is on the fuel, and the other way it is on the rules.  The
fuel must then be shown to last: an item takes as much as its list did, so twice the length does.
-/

namespace ArchiveCensus.Json

open Outcome

/-! ## From what is read to the rules -/

theorem readWord_eq_ok_iff {word : String} {value r : Raw} {cs rest : List Char} :
    readWord word value cs = .ok (r, rest) ↔ r = value ∧ cs = word.toList ++ rest := by
  unfold readWord
  split
  · rename_i h
    rw [List.isPrefixOf?_eq_some_iff_append_eq] at h
    subst h
    simp only [Except.ok.injEq, Prod.mk.injEq, List.append_cancel_left_eq]
    constructor <;> rintro ⟨rfl, rfl⟩ <;> exact ⟨rfl, rfl⟩
  · rename_i h
    refine ⟨fun h' => (nomatch h'), fun ⟨_, hcs⟩ => ?_⟩
    rw [List.isPrefixOf?_eq_some_iff_append_eq.2 hcs.symm] at h
    cases h

theorem readWord_error {word : String} {value : Raw} {cs : List Char} {e : ReadError}
    (h : readWord word value cs = .error e) : e = .malformed := by
  unfold readWord at h
  split at h <;> cases h
  rfl

/-- What an outcome of reading says about the text: a value is what the front of the text stands
for, up to what closes it, and too many digits are where the text breaks. -/
def Sound {α : Type} (part : α → Part) (place : Place) (closing cs : List Char) :
    Except ReadError (Step α) → Prop
  | .ok (a, rest) => ∃ text, Spells text (part a) ∧ cs = text ++ closing ++ rest
  | .error .malformed => True
  | .error (.wholeTooLong digits) => BreaksAt digits place cs

theorem Sound.bind {α β : Type} {part : α → Part} {part' : β → Part} {place place' : Place}
    {closing closing' cs cs' : List Char} {x : Except ReadError (Step α)}
    {f : Step α → Except ReadError (Step β)} (hx : Sound part place closing cs x)
    (hok : ∀ a text rest, Spells text (part a) → cs = text ++ closing ++ rest →
      Sound part' place' closing' cs' (f (a, rest)))
    (hbreak : ∀ digits, BreaksAt digits place cs → BreaksAt digits place' cs') :
    Sound part' place' closing' cs' (x >>= f) :=
  match x, hx with
  | .ok (_, _), ⟨_, htext, hcs⟩ => hok _ _ _ htext hcs
  | .error .malformed, _ => trivial
  | .error (.wholeTooLong _), h => hbreak _ h

theorem sound_readText_bind {β : Type} {part : β → Part} {place : Place}
    {closing cs cs' : List Char} {f : Step (List Letter) → Except ReadError (Step β)}
    (h : ∀ body ls rest, SpellsLetters body ls → cs = body ++ '"' :: rest →
      Sound part place closing cs' (f (ls, rest))) :
    Sound part place closing cs' (readText cs >>= f) := by
  cases htext : readText cs with
  | error e =>
    obtain rfl := readText_error htext
    trivial
  | ok step =>
    obtain ⟨ls, rest⟩ := step
    obtain ⟨body, hbody, hcs⟩ := readText_eq_ok_iff.1 htext
    exact h body ls rest hbody hcs

theorem sound_readWord {word : String} {value : Raw} (h : Spells word.toList (.value value))
    (cs : List Char) : Sound .value .value [] cs (readWord word value cs) := by
  cases hread : readWord word value cs with
  | error e =>
    obtain rfl := readWord_error hread
    trivial
  | ok step =>
    obtain ⟨r, rest⟩ := step
    obtain ⟨rfl, hcs⟩ := readWord_eq_ok_iff.1 hread
    exact ⟨_, h, by rw [hcs, List.append_nil]⟩

theorem sound_readNumber (cs : List Char) :
    Sound (fun n => .value (.num n)) .value [] cs (readNumber cs) := by
  obtain ⟨negative, body, rfl, hread⟩ := exists_readUnsigned cs
  have hsound := readUnsigned_sound negative body
  rw [hread]
  generalize readUnsigned negative body = out at *
  match out, hsound with
  | .ok (_, _), ⟨text, hn, hbody⟩ =>
    exact ⟨_, .number hn, by rw [hbody, List.append_nil, List.append_assoc]⟩
  | .error .malformed, _ => trivial
  | .error (.wholeTooLong _), ⟨ds, rest, hds, hlen, hmax, hrest, hbody⟩ =>
    exact hbody ▸ .number negative hds hlen hmax hrest

mutual

/-- What is read as a document is one. -/
theorem sound_readValue :
    ∀ (fuel : Nat) (cs : List Char), Sound .value .value [] cs (readValue fuel cs)
  | 0, _ => trivial
  | fuel + 1, cs => by
      unfold readValue
      split
      · refine sound_readText_bind fun body ls rest hbody hcs => ⟨_, .text hbody, ?_⟩
        simp [hcs]
      · rename_i rest
        obtain ⟨ws, hws, hrest⟩ := exists_gap_append_skip rest
        split
        · rename_i rest' hskip
          exact ⟨_, .noItems hws, by simp [hskip ▸ hrest]⟩
        · refine (sound_readItems fuel (skip rest)).bind
            (fun items text rest' htext hcs => ⟨_, .list hws htext, ?_⟩) fun digits h => ?_
          · simpa [hcs] using hrest
          · rw [hrest]
            exact .list hws h
      · rename_i rest
        obtain ⟨ws, hws, hrest⟩ := exists_gap_append_skip rest
        split
        · rename_i rest' hskip
          exact ⟨_, .noEntries hws, by simp [hskip ▸ hrest]⟩
        · refine (sound_readEntries fuel (skip rest)).bind
            (fun entries text rest' htext hcs => ⟨_, .map hws htext, ?_⟩) fun digits h => ?_
          · simpa [hcs] using hrest
          · rw [hrest]
            exact .map hws h
      · exact sound_readWord .null _
      · exact sound_readWord .true _
      · exact sound_readWord .false _
      · exact sound_readWord .nan _
      · exact sound_readWord .infinity _
      · exact sound_readWord .minusInfinity _
      · exact (sound_readNumber _).bind (fun n text rest hn hcs => ⟨text, hn, hcs⟩) fun _ h => h

/-- What is read as items is items. -/
theorem sound_readItems :
    ∀ (fuel : Nat) (cs : List Char), Sound .items .items [']'] cs (readItems fuel cs)
  | 0, _ => trivial
  | fuel + 1, cs => by
      unfold readItems
      refine (sound_readValue fuel cs).bind (fun r text rest hr hcs => ?_) fun digits h => .item h
      dsimp only
      split
      · rename_i rest' hskip
        obtain ⟨ws, ws', hws, hws', hrest⟩ := exists_gaps_of_skip hskip
        have hall : cs = text ++ ws ++ ',' :: ws' ++ skip rest' := by simp [hcs, hrest]
        refine (sound_readItems fuel (skip rest')).bind
          (fun rs text' rest'' hrs hmore => ⟨_, .moreItems hr hws hws' hrs, ?_⟩) fun digits h => ?_
        · simp [hall, hmore]
        · exact hall ▸ .moreItems hr hws hws' h
      · rename_i rest' hskip
        obtain ⟨ws, hws, hrest⟩ := exists_gap_append_skip rest
        exact ⟨_, .item hr hws, by simp [hcs, hskip ▸ hrest]⟩
      · trivial

/-- What is read as entries is entries. -/
theorem sound_readEntries :
    ∀ (fuel : Nat) (cs : List Char), Sound .entries .entries ['}'] cs (readEntries fuel cs)
  | 0, _ => trivial
  | fuel + 1, cs => by
      unfold readEntries
      split
      · rename_i front
        refine sound_readText_bind fun body ls rest₁ hbody hfront => ?_
        dsimp only
        split
        · rename_i rest₂ hcolon
          obtain ⟨ws, ws', hws, hws', hrest₁⟩ := exists_gaps_of_skip hcolon
          obtain ⟨kt, hkt⟩ : ∃ kt, kt = '"' :: body ++ '"' :: ws ++ ':' :: ws' := ⟨_, rfl⟩
          have hkey : SpellsKey kt ls := hkt ▸ .mk hbody hws hws'
          have hcs : '"' :: front = kt ++ skip rest₂ := by simp [hkt, hfront, hrest₁]
          refine (sound_readValue fuel (skip rest₂)).bind (fun r text rest₃ hr hval => ?_)
            fun digits h => hcs ▸ .entry hkey h
          dsimp only
          split
          · rename_i rest₄ hskip
            obtain ⟨ws, ws', hws, hws', hrest₃⟩ := exists_gaps_of_skip hskip
            have hall : '"' :: front = kt ++ text ++ ws ++ ',' :: ws' ++ skip rest₄ := by
              simp [hcs, hval, hrest₃]
            refine (sound_readEntries fuel (skip rest₄)).bind
              (fun es text' rest₅ hes hmore => ⟨_, .moreEntries hkey hr hws hws' hes, ?_⟩)
              fun digits h => ?_
            · rw [hall, hmore]
              simp
            · exact hall ▸ .moreEntries hkey hr hws hws' h
          · rename_i rest₄ hskip
            obtain ⟨ws, hws, hrest₃⟩ := exists_gap_append_skip rest₃
            rw [hskip] at hrest₃
            exact ⟨_, .entry hkey hr hws, by rw [hcs, hval, hrest₃]; simp⟩
          · trivial
        · trivial
      · trivial

end

/-! ## From the rules to what is read -/

/-- Nothing that may follow a document carries it on. -/
def Ends (rest : List Char) : Prop :=
  ∀ c, rest.head? = some c → isGap c = true ∨ c = ',' ∨ c = ']' ∨ c = '}'

theorem Ends.endsNumber {rest : List Char} (h : Ends rest) : EndsNumber rest := by
  have hne : ∀ c more, isGap c = false → c ≠ ',' → c ≠ ']' → c ≠ '}' → rest ≠ c :: more := by
    rintro c more hgap hcomma hlist hmap rfl
    obtain h | h | h | h := h c rfl
    · rw [hgap] at h
      cases h
    · exact hcomma h
    · exact hlist h
    · exact hmap h
  refine ⟨fun c hc => ?_, fun fs more _ => ?_, fun et e more het he => ?_⟩
  · obtain h | rfl | rfl | rfl := h c hc
    · simp only [isGap, Bool.or_eq_true, beq_iff_eq] at h
      obtain ((rfl | rfl) | rfl) | rfl := h <;> decide
    all_goals decide
  · exact hne _ _ (by decide) (by decide) (by decide) (by decide)
  · obtain ⟨c, hc⟩ : ∃ c, rest.head? = some c := by
      cases het
      exact ⟨_, by rw [he]; rfl⟩
    obtain ⟨more, rfl⟩ := List.head?_eq_some_iff.1 hc
    obtain rfl | rfl := het.head_eq _ (he ▸ hc) <;>
      exact hne _ _ (by decide) (by decide) (by decide) (by decide) rfl

theorem ends_cons {c : Char} (h : isGap c = true ∨ c = ',' ∨ c = ']' ∨ c = '}')
    (rest : List Char) : Ends (c :: rest) := by
  rintro _ ⟨⟩
  exact h

theorem IsGap.ends_append {ws rest : List Char} (h : IsGap ws) (hrest : Ends rest) :
    Ends (ws ++ rest) := by
  cases ws with
  | nil => exact hrest
  | cons c ws => exact ends_cons (.inl (h c (by simp))) _

/-- A text starts with what is no gap and closes nothing. -/
def Starts (text : List Char) : Prop :=
  ∃ c more, text = c :: more ∧ isGap c = false ∧ c ≠ ']' ∧ c ≠ '}'

theorem Starts.append {text : List Char} (h : Starts text) (rest : List Char) :
    Starts (text ++ rest) := by
  obtain ⟨c, more, rfl, hc⟩ := h
  exact ⟨c, more ++ rest, rfl, hc⟩

theorem Starts.skip_eq {text : List Char} (h : Starts text) : skip text = text := by
  obtain ⟨c, more, rfl, hc, -⟩ := h
  exact skip_cons hc more

theorem Starts.length_pos {text : List Char} (h : Starts text) : 0 < text.length := by
  obtain ⟨c, more, rfl, -⟩ := h
  simp

/-- A gap in front of a start is skipped. -/
theorem Starts.skip_append {ws text : List Char} (h : Starts text) (hws : IsGap ws) :
    skip (ws ++ text) = text := by
  rw [Json.skip_append hws, h.skip_eq]

theorem IsWhole.starts {ds : List Char} (h : IsWhole ds) (negative : Bool) (rest : List Char) :
    Starts (minus negative ++ (ds ++ rest)) := by
  cases negative with
  | true => exact ⟨'-', ds ++ rest, rfl, by decide⟩
  | false =>
    obtain ⟨d, more, rfl, hd⟩ := h.isDigits.exists_cons
    refine ⟨d, more ++ rest, rfl, ?_, ne_of_isDigit hd (by decide), ne_of_isDigit hd (by decide)⟩
    by_contra hgap
    simp only [isGap, Bool.not_eq_false, Bool.or_eq_true, beq_iff_eq] at hgap
    obtain ((rfl | rfl) | rfl) | rfl := hgap <;> cases hd

/-- A number is a sign, digits, and more. -/
theorem SpellsNumber.exists_whole {cs : List Char} {n : Number} (h : SpellsNumber cs n) :
    ∃ negative ds more, IsWhole ds ∧ cs = minus negative ++ (ds ++ more) := by
  cases h with
  | whole negative hds _ => exact ⟨negative, _, [], hds, by simp⟩
  | fraction negative hds _ => exact ⟨negative, _, _, hds, rfl⟩
  | exponent negative hds _ _ => exact ⟨negative, _, _, hds, rfl⟩

theorem SpellsKey.starts {kt : List Char} {k : List Letter} (h : SpellsKey kt k)
    (rest : List Char) : Starts (kt ++ rest) := by
  cases h
  exact ⟨'"', _, rfl, by decide⟩

theorem Spells.starts {text : List Char} {part : Part} (h : Spells text part) : Starts text := by
  induction h with
  | null => exact ⟨'n', _, rfl, by decide⟩
  | true => exact ⟨'t', _, rfl, by decide⟩
  | false => exact ⟨'f', _, rfl, by decide⟩
  | nan => exact ⟨'N', _, rfl, by decide⟩
  | infinity => exact ⟨'I', _, rfl, by decide⟩
  | minusInfinity => exact ⟨'-', _, rfl, by decide⟩
  | number hn =>
    obtain ⟨negative, ds, more, hds, rfl⟩ := hn.exists_whole
    exact hds.starts negative more
  | text _ => exact ⟨'"', _, rfl, by decide⟩
  | noItems _ => exact ⟨'[', _, rfl, by decide⟩
  | list _ _ _ => exact ⟨'[', _, rfl, by decide⟩
  | noEntries _ => exact ⟨'{', _, rfl, by decide⟩
  | map _ _ _ => exact ⟨'{', _, rfl, by decide⟩
  | item _ _ ih => exact ih.append _
  | moreItems _ _ _ _ ih _ =>
    rw [List.append_assoc, List.append_assoc]
    exact ih.append _
  | entry hkey _ _ _ =>
    rw [List.append_assoc]
    exact hkey.starts _
  | moreEntries hkey _ _ _ _ _ _ =>
    simp only [List.append_assoc]
    exact hkey.starts _

theorem BreaksAt.starts {digits : Nat} {place : Place} {cs : List Char}
    (h : BreaksAt digits place cs) : Starts cs := by
  induction h with
  | number negative hds _ _ _ => exact hds.starts negative _
  | list _ _ _ => exact ⟨'[', _, rfl, by decide⟩
  | map _ _ _ => exact ⟨'{', _, rfl, by decide⟩
  | item _ ih => exact ih
  | moreItems hj _ _ _ _ =>
    rw [List.append_assoc, List.append_assoc]
    exact hj.starts.append _
  | entry hkey _ _ => exact hkey.starts _
  | moreEntries hkey _ _ _ _ _ =>
    simp only [List.append_assoc]
    exact hkey.starts _

theorem BreaksAt.maxDigits_lt {digits : Nat} {place : Place} {cs : List Char}
    (h : BreaksAt digits place cs) : Numeral.maxDigits < digits := by
  induction h with
  | number _ _ _ hmax _ => exact hmax
  | list _ _ ih => exact ih
  | map _ _ ih => exact ih
  | item _ ih => exact ih
  | moreItems _ _ _ _ ih => exact ih
  | entry _ _ ih => exact ih
  | moreEntries _ _ _ _ _ ih => exact ih

theorem readValue_number {ds : List Char} (hds : IsDigits ds) (negative : Bool)
    (rest : List Char) (fuel : Nat) :
    readValue (fuel + 1) (minus negative ++ (ds ++ rest)) =
      readNumber (minus negative ++ (ds ++ rest)) >>= fun step => .ok (.num step.1, step.2) := by
  obtain ⟨d, more, rfl, hd⟩ := hds.exists_cons
  have hne : ∀ c, isDigit c = false → d ≠ c := fun c hc => ne_of_isDigit hd hc
  have hI : d ≠ 'I' := hne _ (by decide)
  cases negative with
  | true =>
    simp [minus, readValue, hI]
  | false =>
    rw [minus, if_neg Bool.false_ne_true, List.nil_append, List.cons_append, readValue]
    · rfl
    all_goals
      intros
      rename_i heq
      exact hne _ (by decide) (List.cons.inj heq).1

/-- What comes of reading a text that stands for a part, with enough fuel. -/
def Reads (text : List Char) : Part → Prop
  | .value r => ∀ fuel rest, 2 * text.length ≤ fuel + 1 → Ends rest →
      readValue fuel (text ++ rest) = .ok (r, rest)
  | .items rs => ∀ fuel rest, 2 * text.length ≤ fuel →
      readItems fuel (text ++ ']' :: rest) = .ok (rs, rest)
  | .entries es => ∀ fuel rest, 2 * text.length ≤ fuel →
      readEntries fuel (text ++ '}' :: rest) = .ok (es, rest)

theorem readValue_list {ws cs : List Char} (hws : IsGap ws) (hcs : Starts cs) (fuel : Nat) :
    readValue (fuel + 1) ('[' :: ws ++ cs) =
      readItems fuel cs >>= fun step => .ok (.arr step.1, step.2) := by
  rw [List.cons_append, readValue, hcs.skip_append hws]
  obtain ⟨c, more, rfl, -, hc, -⟩ := hcs
  split
  · exact absurd (List.cons.inj ‹_›).1 hc
  · rfl

theorem readValue_map {ws cs : List Char} (hws : IsGap ws) (hcs : Starts cs) (fuel : Nat) :
    readValue (fuel + 1) ('{' :: ws ++ cs) =
      readEntries fuel cs >>= fun step => .ok (.obj (ofPairs step.1), step.2) := by
  rw [List.cons_append, readValue, hcs.skip_append hws]
  obtain ⟨c, more, rfl, -, -, hc⟩ := hcs
  split
  · exact absurd (List.cons.inj ‹_›).1 hc
  · rfl

theorem readItems_last {fuel : Nat} {cs rest rest' : List Char} {r : Raw}
    (hr : readValue fuel cs = .ok (r, rest)) (hrest : skip rest = ']' :: rest') :
    readItems (fuel + 1) cs = .ok ([r], rest') := by
  rw [readItems, hr, ok_bind]
  dsimp only
  rw [hrest]
  rfl

theorem readItems_more {fuel : Nat} {cs rest rest' : List Char} {r : Raw}
    (hr : readValue fuel cs = .ok (r, rest)) (hrest : skip rest = ',' :: rest') :
    readItems (fuel + 1) cs =
      readItems fuel (skip rest') >>= fun step => .ok (r :: step.1, step.2) := by
  rw [readItems, hr, ok_bind]
  dsimp only
  rw [hrest]
  rfl

/-- After a key and its colon the value is read. -/
theorem readEntries_succ {fuel : Nat} {kt rest : List Char} {k : List Letter}
    (hkey : SpellsKey kt k) (hrest : Starts rest) :
    readEntries (fuel + 1) (kt ++ rest) =
      readValue fuel rest >>= fun step =>
        match skip step.2 with
        | ',' :: rest =>
            readEntries fuel (skip rest) >>= fun step' => .ok ((k, step.1) :: step'.1, step'.2)
        | '}' :: rest => .ok ([(k, step.1)], rest)
        | _ => malformed := by
  obtain ⟨hbody, hws, hws'⟩ := hkey
  rename_i body ws ws'
  obtain ⟨tail, htail⟩ : ∃ tail, tail = ws' ++ rest := ⟨_, rfl⟩
  have hskip : skip tail = rest := htail ▸ hrest.skip_append hws'
  have hcs : '"' :: body ++ '"' :: ws ++ ':' :: ws' ++ rest =
      '"' :: (body ++ '"' :: (ws ++ ':' :: tail)) := by simp [htail]
  have htext : readText (body ++ '"' :: (ws ++ ':' :: tail)) =
      .ok (k, ws ++ ':' :: tail) :=
    readText_eq_ok_iff.2 ⟨body, hbody, rfl⟩
  rw [hcs, ← hskip, readEntries, htext, ok_bind]
  dsimp only
  rw [skip_gap_append hws (by decide)]
  rfl

theorem readEntries_last {fuel : Nat} {kt cs rest rest' : List Char} {k : List Letter} {r : Raw}
    (hkey : SpellsKey kt k) (hcs : Starts cs) (hr : readValue fuel cs = .ok (r, rest))
    (hrest : skip rest = '}' :: rest') :
    readEntries (fuel + 1) (kt ++ cs) = .ok ([(k, r)], rest') := by
  rw [readEntries_succ hkey hcs, hr, ok_bind, hrest]
  rfl

theorem readEntries_more {fuel : Nat} {kt cs rest rest' : List Char} {k : List Letter} {r : Raw}
    (hkey : SpellsKey kt k) (hcs : Starts cs) (hr : readValue fuel cs = .ok (r, rest))
    (hrest : skip rest = ',' :: rest') :
    readEntries (fuel + 1) (kt ++ cs) =
      readEntries fuel (skip rest') >>= fun step => .ok ((k, r) :: step.1, step.2) := by
  rw [readEntries_succ hkey hcs, hr, ok_bind, hrest]
  rfl

theorem reads_word {word : String} {value : Raw} (chars : List Char)
    (hword : word.toList = chars) (hlength : 0 < chars.length)
    (hread : ∀ fuel rest,
      readValue (fuel + 1) (chars ++ rest) = readWord word value (chars ++ rest)) :
    Reads word.toList (.value value) := by
  intro fuel rest hfuel _
  rw [hword] at hfuel ⊢
  obtain ⟨fuel, rfl⟩ : ∃ n, fuel = n + 1 := ⟨fuel - 1, by omega⟩
  rw [hread]
  exact readWord_eq_ok_iff.2 ⟨rfl, by rw [hword]⟩

theorem reads_number {cs : List Char} {n : Number} (hn : SpellsNumber cs n) :
    Reads cs (.value (.num n)) := by
  intro fuel rest hfuel hrest
  have hread := readNumber_of_spells hn hrest.endsNumber
  have hlength := (Spells.number hn).starts.length_pos
  obtain ⟨fuel, rfl⟩ : ∃ n, fuel = n + 1 := ⟨fuel - 1, by omega⟩
  obtain ⟨negative, ds, more, hds, rfl⟩ := hn.exists_whole
  rw [List.append_assoc, List.append_assoc] at hread ⊢
  rw [readValue_number hds.isDigits, hread, ok_bind]

theorem reads_text {body : List Char} {ls : List Letter} (hbody : SpellsLetters body ls) :
    Reads ('"' :: body ++ ['"']) (.value (.str ls)) := by
  intro fuel rest hfuel _
  simp only [List.length_append, List.length_cons, List.length_nil] at hfuel
  obtain ⟨fuel, rfl⟩ : ∃ n, fuel = n + 1 := ⟨fuel - 1, by omega⟩
  have htext : readText (body ++ '"' :: rest) = .ok (ls, rest) :=
    readText_eq_ok_iff.2 ⟨body, hbody, rfl⟩
  simp only [List.append_assoc, List.cons_append, List.nil_append]
  rw [readValue, htext]
  rfl

/-- **What stands for a part is read as it.** -/
theorem Spells.reads {text : List Char} {part : Part} (h : Spells text part) :
    Reads text part := by
  induction h with
  | null =>
    exact reads_word ['n', 'u', 'l', 'l'] rfl (by decide) fun _ _ => by simp [readValue]
  | true =>
    exact reads_word ['t', 'r', 'u', 'e'] rfl (by decide) fun _ _ => by simp [readValue]
  | false =>
    exact reads_word ['f', 'a', 'l', 's', 'e'] rfl (by decide) fun _ _ => by
      simp [readValue]
  | nan =>
    exact reads_word ['N', 'a', 'N'] rfl (by decide) fun _ _ => by
      simp [readValue]
  | infinity =>
    exact reads_word ['I', 'n', 'f', 'i', 'n', 'i', 't', 'y'] rfl (by decide) fun _ _ => by
      simp [readValue]
  | minusInfinity =>
    exact reads_word ['-', 'I', 'n', 'f', 'i', 'n', 'i', 't', 'y'] rfl (by decide) fun _ _ => by
      simp [readValue]
  | number hn => exact reads_number hn
  | text hbody => exact reads_text hbody
  | @noItems ws hws =>
    intro fuel rest hfuel _
    simp only [List.length_append, List.length_cons, List.length_nil] at hfuel
    obtain ⟨fuel, rfl⟩ : ∃ n, fuel = n + 1 := ⟨fuel - 1, by omega⟩
    have hclose : skip (ws ++ ']' :: rest) = ']' :: rest := skip_gap_append hws (by decide) rest
    simp only [List.append_assoc, List.cons_append, List.nil_append]
    rw [readValue, hclose]
    rfl
  | @list ws cs rs hws hcs ih =>
    intro fuel rest hfuel _
    simp only [List.length_append, List.length_cons, List.length_nil] at hfuel
    obtain ⟨fuel, rfl⟩ : ∃ n, fuel = n + 1 := ⟨fuel - 1, by omega⟩
    rw [List.append_assoc, List.append_assoc, readValue_list hws (hcs.starts.append _),
      List.singleton_append, ih fuel rest (by omega)]
    rfl
  | @noEntries ws hws =>
    intro fuel rest hfuel _
    simp only [List.length_append, List.length_cons, List.length_nil] at hfuel
    obtain ⟨fuel, rfl⟩ : ∃ n, fuel = n + 1 := ⟨fuel - 1, by omega⟩
    have hclose : skip (ws ++ '}' :: rest) = '}' :: rest := skip_gap_append hws (by decide) rest
    simp only [List.append_assoc, List.cons_append, List.nil_append]
    rw [readValue, hclose]
    rfl
  | @map ws cs es hws hcs ih =>
    intro fuel rest hfuel _
    simp only [List.length_append, List.length_cons, List.length_nil] at hfuel
    obtain ⟨fuel, rfl⟩ : ∃ n, fuel = n + 1 := ⟨fuel - 1, by omega⟩
    rw [List.append_assoc, List.append_assoc, readValue_map hws (hcs.starts.append _),
      List.singleton_append, ih fuel rest (by omega)]
    rfl
  | @item cs ws r hr hws ih =>
    intro fuel rest hfuel
    have hlength := hr.starts.length_pos
    rw [List.length_append] at hfuel
    obtain ⟨fuel, rfl⟩ : ∃ n, fuel = n + 1 := ⟨fuel - 1, by omega⟩
    have hread := ih fuel _ (by omega) (hws.ends_append (ends_cons (c := ']') (by decide) rest))
    rw [List.append_assoc, readItems_last hread (skip_gap_append hws (by decide) _)]
  | @moreItems cs ws ws' more r rs hr hws hws' hrs ih ihs =>
    intro fuel rest hfuel
    have hlength := hr.starts.length_pos
    simp only [List.length_append, List.length_cons] at hfuel
    obtain ⟨fuel, rfl⟩ : ∃ n, fuel = n + 1 := ⟨fuel - 1, by omega⟩
    have hread := ih fuel _ (by omega) (hws.ends_append (ends_cons (c := ',') (by decide)
      (ws' ++ (more ++ ']' :: rest))))
    simp only [List.append_assoc, List.cons_append]
    rw [readItems_more hread (skip_gap_append hws (by decide) _),
      (hrs.starts.append _).skip_append hws', ihs fuel rest (by omega)]
    rfl
  | @entry kt cs ws k r hkey hr hws ih =>
    intro fuel rest hfuel
    have hlength := hr.starts.length_pos
    simp only [List.length_append] at hfuel
    obtain ⟨fuel, rfl⟩ : ∃ n, fuel = n + 1 := ⟨fuel - 1, by omega⟩
    have hread := ih fuel _ (by omega) (hws.ends_append (ends_cons (c := '}') (by decide) rest))
    rw [List.append_assoc, List.append_assoc,
      readEntries_last hkey (hr.starts.append _) hread (skip_gap_append hws (by decide) _)]
  | @moreEntries kt cs ws ws' more k r es hkey hr hws hws' hes ih ihs =>
    intro fuel rest hfuel
    have hlength := hr.starts.length_pos
    simp only [List.length_append, List.length_cons] at hfuel
    obtain ⟨fuel, rfl⟩ : ∃ n, fuel = n + 1 := ⟨fuel - 1, by omega⟩
    have hread := ih fuel _ (by omega) (hws.ends_append (ends_cons (c := ',') (by decide)
      (ws' ++ (more ++ '}' :: rest))))
    simp only [List.append_assoc, List.cons_append]
    rw [readEntries_more hkey (hr.starts.append _) hread (skip_gap_append hws (by decide) _),
      (hes.starts.append _).skip_append hws', ihs fuel rest (by omega)]
    rfl

/-- What comes of reading a text that breaks in some place, with enough fuel. -/
def Refuses (digits : Nat) (cs : List Char) : Place → Prop
  | .value => ∀ fuel, 2 * cs.length ≤ fuel + 1 → readValue fuel cs = .error (.wholeTooLong digits)
  | .items => ∀ fuel, 2 * cs.length ≤ fuel → readItems fuel cs = .error (.wholeTooLong digits)
  | .entries => ∀ fuel, 2 * cs.length ≤ fuel → readEntries fuel cs = .error (.wholeTooLong digits)

/-- **A text that breaks at a whole number is refused for it.** -/
theorem BreaksAt.refuses {digits : Nat} {place : Place} {cs : List Char}
    (h : BreaksAt digits place cs) : Refuses digits cs place := by
  induction h with
  | @number ds rest negative hds hlen hmax hrest =>
    intro fuel hfuel
    have hlength := (hds.starts negative rest).length_pos
    obtain ⟨fuel, rfl⟩ : ∃ n, fuel = n + 1 := ⟨fuel - 1, by omega⟩
    subst hlen
    rw [readValue_number hds.isDigits, readNumber_of_tooLong negative hds hmax hrest, error_bind]
  | @list ws cs hws hcs ih =>
    intro fuel hfuel
    simp only [List.length_append, List.length_cons] at hfuel
    obtain ⟨fuel, rfl⟩ : ∃ n, fuel = n + 1 := ⟨fuel - 1, by omega⟩
    rw [readValue_list hws hcs.starts, ih fuel (by omega), error_bind]
  | @map ws cs hws hcs ih =>
    intro fuel hfuel
    simp only [List.length_append, List.length_cons] at hfuel
    obtain ⟨fuel, rfl⟩ : ∃ n, fuel = n + 1 := ⟨fuel - 1, by omega⟩
    rw [readValue_map hws hcs.starts, ih fuel (by omega), error_bind]
  | @item cs hcs ih =>
    intro fuel hfuel
    have hlength := hcs.starts.length_pos
    obtain ⟨fuel, rfl⟩ : ∃ n, fuel = n + 1 := ⟨fuel - 1, by omega⟩
    rw [readItems, ih fuel (by omega), error_bind]
  | @moreItems cs ws ws' rest r hr hws hws' hrest ih =>
    intro fuel hfuel
    have hlength := hr.starts.length_pos
    simp only [List.length_append, List.length_cons] at hfuel
    obtain ⟨fuel, rfl⟩ : ∃ n, fuel = n + 1 := ⟨fuel - 1, by omega⟩
    have hread := hr.reads fuel _ (by omega)
      (hws.ends_append (ends_cons (c := ',') (by decide) (ws' ++ rest)))
    simp only [List.append_assoc, List.cons_append]
    rw [readItems_more hread (skip_gap_append hws (by decide) _), hrest.starts.skip_append hws',
      ih fuel (by omega), error_bind]
  | @entry kt cs k hkey hcs ih =>
    intro fuel hfuel
    have hlength := hcs.starts.length_pos
    rw [List.length_append] at hfuel
    obtain ⟨fuel, rfl⟩ : ∃ n, fuel = n + 1 := ⟨fuel - 1, by omega⟩
    rw [readEntries_succ hkey hcs.starts, ih fuel (by omega), error_bind]
  | @moreEntries kt cs ws ws' rest k r hkey hr hws hws' hrest ih =>
    intro fuel hfuel
    have hlength := hr.starts.length_pos
    simp only [List.length_append, List.length_cons] at hfuel
    obtain ⟨fuel, rfl⟩ : ∃ n, fuel = n + 1 := ⟨fuel - 1, by omega⟩
    have hread := hr.reads fuel _ (by omega)
      (hws.ends_append (ends_cons (c := ',') (by decide) (ws' ++ rest)))
    simp only [List.append_assoc, List.cons_append]
    rw [readEntries_more hkey (hr.starts.append _) hread (skip_gap_append hws (by decide) _),
      hrest.starts.skip_append hws', ih fuel (by omega), error_bind]

/-! ## Whole texts -/

theorem IsGap.ends {ws : List Char} (h : IsGap ws) : Ends ws := by
  have hnil : Ends [] := by rintro _ ⟨⟩
  simpa using h.ends_append hnil

theorem skip_eq_nil_iff {cs : List Char} : skip cs = [] ↔ IsGap cs := by
  simp [skip, IsGap]

/-- **The reader gives a document exactly where the text stands for it.** -/
theorem parse_eq_ok_iff {cs : List Char} {r : Raw} : parse cs = .ok r ↔ SpellsDocument cs r := by
  rw [parse, bind_eq_ok_iff]
  constructor
  · rintro ⟨⟨r', rest⟩, hread, h⟩
    dsimp only at h
    split at h
    · rename_i hrest
      cases h
      have hsound := sound_readValue (2 * cs.length + 1) (skip cs)
      rw [hread] at hsound
      obtain ⟨text, htext, hskip⟩ := hsound
      obtain ⟨ws, hws, hcs⟩ := exists_gap_append_skip cs
      refine ⟨ws, text, rest, hws, skip_eq_nil_iff.1 (by simpa using hrest), htext, ?_⟩
      rw [hcs, hskip, List.append_nil, List.append_assoc]
    · cases h
  · rintro ⟨ws, text, ws', hws, hws', htext, rfl⟩
    refine ⟨(r, ws'), ?_, ?_⟩
    · rw [List.append_assoc, (htext.starts.append ws').skip_append hws]
      refine htext.reads _ ws' ?_ hws'.ends
      simp only [List.length_append]
      omega
    · simp [skip_eq_nil_iff.2 hws']

/-- Half of a surrogate pair is read as it is, where its other half is not there. -/
example : parse "[\"\\ud800\"]".toList = .ok (.arr [.str [.half 0xD800 (.inl rfl)]]) := by cbv

/-- **The reader stops at a whole number that is too long exactly where the text breaks at one.** -/
theorem parse_eq_wholeTooLong_iff {cs : List Char} {digits : Nat} :
    parse cs = .error (.wholeTooLong digits) ↔ BreaksDocument digits cs := by
  rw [parse, bind_eq_error_iff]
  constructor
  · rintro (h | ⟨⟨r, rest⟩, -, h⟩)
    · have hsound := sound_readValue (2 * cs.length + 1) (skip cs)
      rw [h] at hsound
      obtain ⟨ws, hws, hcs⟩ := exists_gap_append_skip cs
      exact ⟨ws, skip cs, hws, hsound, hcs⟩
    · dsimp only at h
      split at h <;> cases h
  · rintro ⟨ws, rest, hws, hrest, rfl⟩
    refine .inl ?_
    rw [hrest.starts.skip_append hws]
    refine hrest.refuses _ ?_
    simp only [List.length_append]
    omega

end ArchiveCensus.Json
