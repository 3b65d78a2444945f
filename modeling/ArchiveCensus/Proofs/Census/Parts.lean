import Mathlib.Data.List.Nodup
import ArchiveCensus.Census.Basic

/-!
# Proofs/Census/Parts — what the parts of a census say of all they were given

A tally, a set and a span are given one item after another.  Each of them says at any time what can
be said of all the items at once:

* `Tally.Counts` — how often each text is among some texts; the empty text has no place.
* `Distinct.SetOf` — which texts are among them, each once and the empty one left out.
* `Span.Bounds` — which date is the first of some dates, and which the last.

For each of these there is one lemma for a step of the part, and one for the steps of a file.
-/

namespace ArchiveCensus

/-! ## Tallies -/

namespace Tally

/-- A tally counts some texts: each that is not empty has the count of its places among them, and
the texts in the tally are those that have one. -/
structure Counts (t : Tally) (texts : List String) : Prop where
  count : ∀ key, key ≠ "" → t.count key = texts.count key
  mem_keys : ∀ key, key ∈ t.keys ↔ key ≠ "" ∧ key ∈ texts
  nodup_keys : t.keys.Nodup

theorem counts_nil : Counts [] [] where
  count _ _ := rfl
  mem_keys _ := by simp [keys]
  nodup_keys := List.nodup_nil

namespace Counts

variable {t : Tally} {texts : List String}

/-- One more text that is not empty is counted, -/
theorem bump (h : t.Counts texts) {s : String} (hs : s ≠ "") :
    (t.bump s).Counts (texts ++ [s]) where
  count key hkey := by
    rw [count_bump, h.count key hkey, List.count_append, List.count_singleton]
    by_cases hs : s = key <;> simp [hs]
  mem_keys key := by
    rw [Tally.bump, keys_modify, List.mem_append, List.mem_singleton]
    split
    · next hmem =>
      rw [h.mem_keys]
      refine and_congr_right fun _ => ⟨.inl, ?_⟩
      rintro (hold | rfl)
      · exact hold
      · exact ((h.mem_keys _).1 hmem).2
    · rw [List.mem_append, List.mem_singleton, h.mem_keys]
      constructor
      · rintro (⟨hkey, hold⟩ | rfl)
        · exact ⟨hkey, .inl hold⟩
        · exact ⟨hs, .inr rfl⟩
      · rintro ⟨hkey, hold | hnew⟩
        · exact .inl ⟨hkey, hold⟩
        · exact .inr hnew
  nodup_keys := by
    rw [Tally.bump, keys_modify]
    split
    · exact h.nodup_keys
    · next hnew =>
      exact List.nodup_append.2 ⟨h.nodup_keys, by simp, fun a ha b hb => by
        rintro rfl
        exact hnew (List.mem_singleton.1 hb ▸ ha)⟩

/-- and an empty one leaves the tally as it was. -/
theorem skip (h : t.Counts texts) : t.Counts (texts ++ [""]) where
  count key hkey := by
    rw [h.count key hkey, List.count_append, List.count_singleton,
      if_neg (by simpa using hkey.symm),
      Nat.add_zero]
  mem_keys key := by
    rw [h.mem_keys, List.mem_append, List.mem_singleton]
    exact and_congr_right fun hkey => (or_iff_left hkey).symm
  nodup_keys := h.nodup_keys

theorem bumpGiven (h : t.Counts texts) (s : String) : (t.bumpGiven s).Counts (texts ++ [s]) := by
  rw [Tally.bumpGiven]
  split
  · next hempty =>
    rw [String.isEmpty_iff.1 hempty]
    exact h.skip
  · next hgiven => exact h.bump fun hs => hgiven (String.isEmpty_iff.2 hs)

/-- Several texts are counted one by one, -/
theorem bumpAll : ∀ {keys : List String} {t : Tally} {texts : List String}, t.Counts texts →
    (∀ key ∈ keys, key ≠ "") → (t.bumpAll keys).Counts (texts ++ keys)
  | [], _, _, h, _ => by rwa [List.append_nil]
  | key :: rest, _, texts, h, hkeys => by
    obtain ⟨hkey, hrest⟩ := List.forall_mem_cons.1 hkeys
    have hall := (h.bump hkey).bumpAll hrest
    rwa [List.append_assoc] at hall

/-- and so is what several events say. -/
theorem tallyEvents (part : Event → String) : ∀ {events : List Event} {t : Tally}
    {texts : List String}, t.Counts texts →
      (Tables.tallyEvents part t events).Counts (texts ++ events.map part)
  | [], _, _, h => by rwa [List.map_nil, List.append_nil]
  | event :: rest, t, texts, h => by
    have hall : (Tables.tallyEvents part (t.bumpGiven (part event)) rest).Counts
        (texts ++ [part event] ++ rest.map part) := (h.bumpGiven (part event)).tallyEvents part
    rwa [List.append_assoc] at hall

end Counts

end Tally

/-! ## Sets -/

namespace Distinct

/-- A set has some texts: each that is not empty once. -/
structure SetOf (set texts : List String) : Prop where
  mem : ∀ s, s ∈ set ↔ s ≠ "" ∧ s ∈ texts
  nodup : set.Nodup

theorem setOf_nil : SetOf [] [] where
  mem _ := by simp
  nodup := List.nodup_nil

namespace SetOf

variable {set texts : List String}

/-- One more text that is not empty is in the set, -/
theorem insert (h : SetOf set texts) {s : String} (hs : s ≠ "") :
    SetOf (set.insert s) (texts ++ [s]) where
  mem a := by
    rw [List.mem_insert_iff, h.mem, List.mem_append, List.mem_singleton]
    constructor
    · rintro (rfl | ⟨ha, hold⟩)
      · exact ⟨hs, .inr rfl⟩
      · exact ⟨ha, .inl hold⟩
    · rintro ⟨ha, hold | hnew⟩
      · exact .inr ⟨ha, hold⟩
      · exact .inl hnew
  nodup := h.nodup.insert

/-- and an empty one leaves the set as it was. -/
theorem insertGiven (h : SetOf set texts) (s : String) :
    SetOf (Distinct.insertGiven set s) (texts ++ [s]) := by
  rw [Distinct.insertGiven]
  split
  · next hempty =>
    rw [String.isEmpty_iff.1 hempty]
    refine ⟨fun a => ?_, h.nodup⟩
    rw [h.mem, List.mem_append, List.mem_singleton]
    exact and_congr_right fun ha => (or_iff_left ha).symm
  · next hgiven => exact h.insert fun hs => hgiven (String.isEmpty_iff.2 hs)

theorem insertAll : ∀ {new set texts : List String}, SetOf set texts → (∀ s ∈ new, s ≠ "") →
    SetOf (new.foldl (fun set s => set.insert s) set) (texts ++ new)
  | [], _, _, h, _ => by rwa [List.append_nil]
  | s :: rest, _, texts, h, hnew => by
    obtain ⟨hs, hrest⟩ := List.forall_mem_cons.1 hnew
    have hall := (h.insert hs).insertAll hrest
    rwa [List.append_assoc] at hall

end SetOf

end Distinct

/-! ## Spans -/

namespace Instant

theorem before_self (t : Instant) : t.before t = false := by simp [before]

/-- What is not before an instant is not before an earlier one. -/
theorem not_before_of_before {a b d : Instant} (hd : d.before b = false) (h : a.before b = true) :
    d.before a = false := by
  simp only [before, decide_eq_false_iff_not, decide_eq_true_eq] at *
  omega

/-- What an instant is not before, a later one is not before either. -/
theorem before_not_of_before {a b d : Instant} (hd : a.before d = false) (h : a.before b = true) :
    b.before d = false := by
  simp only [before, decide_eq_false_iff_not, decide_eq_true_eq] at *
  omega

end Instant

namespace Span

/-- A span bounds some dates: its first and its last date are among them and none is outside, and
it has no dates where there are none. -/
structure Bounds (s : Span) (dates : List Instant) : Prop where
  first : ∀ t, s.first = some t → t ∈ dates ∧ ∀ d ∈ dates, d.before t = false
  last : ∀ t, s.last = some t → t ∈ dates ∧ ∀ d ∈ dates, t.before d = false
  first_eq_none : s.first = none ↔ dates = []
  last_eq_none : s.last = none ↔ dates = []

theorem bounds_empty : empty.Bounds [] where
  first _ hfirst := nomatch hfirst
  last _ hlast := nomatch hlast
  first_eq_none := by simp [empty]
  last_eq_none := by simp [empty]

namespace Bounds

variable {s : Span} {dates : List Instant}

/-- A span grows with a date, -/
theorem add (h : s.Bounds dates) (t : Instant) : (s.add t).Bounds (dates ++ [t]) where
  first a hfirst := by
    obtain rfl := Option.some.inj hfirst
    rw [List.forall_mem_append, List.forall_mem_singleton]
    cases hs : s.first with
    | none =>
      rw [h.first_eq_none.1 hs]
      exact ⟨List.mem_singleton.2 rfl, fun _ hnone => (nomatch hnone), t.before_self⟩
    | some old =>
      obtain ⟨hmem, hleast⟩ := h.first old hs
      dsimp only
      split
      · next hbefore =>
        exact ⟨List.mem_concat_self, fun d hd => Instant.not_before_of_before (hleast d hd) hbefore,
          t.before_self⟩
      · next hnot => exact ⟨List.mem_append_left _ hmem, hleast, eq_false_of_ne_true hnot⟩
  last a hlast := by
    obtain rfl := Option.some.inj hlast
    rw [List.forall_mem_append, List.forall_mem_singleton]
    cases hs : s.last with
    | none =>
      rw [h.last_eq_none.1 hs]
      exact ⟨List.mem_singleton.2 rfl, fun _ hnone => (nomatch hnone), t.before_self⟩
    | some old =>
      obtain ⟨hmem, hmost⟩ := h.last old hs
      dsimp only
      split
      · next hbefore =>
        exact ⟨List.mem_concat_self, fun d hd => Instant.before_not_of_before (hmost d hd) hbefore,
          t.before_self⟩
      · next hnot => exact ⟨List.mem_append_left _ hmem, hmost, eq_false_of_ne_true hnot⟩
  first_eq_none := by simp [Span.add]
  last_eq_none := by simp [Span.add]

/-- with one that may be absent, -/
theorem addOption (h : s.Bounds dates) : ∀ t : Option Instant,
    (s.addOption t).Bounds (dates ++ t.toList)
  | none => by rwa [Option.toList_none, List.append_nil]
  | some t => h.add t

/-- and with several. -/
theorem addAll : ∀ {new : List Instant} {s : Span} {dates : List Instant}, s.Bounds dates →
    (new.foldl Span.add s).Bounds (dates ++ new)
  | [], _, _, h => by rwa [List.append_nil]
  | t :: rest, s, dates, h => by
    have hall : (rest.foldl Span.add (s.add t)).Bounds (dates ++ [t] ++ rest) := (h.add t).addAll
    rwa [List.append_assoc] at hall

end Bounds

end Span

end ArchiveCensus
