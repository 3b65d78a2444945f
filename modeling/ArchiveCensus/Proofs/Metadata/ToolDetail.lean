import ArchiveCensus.Metadata.ToolDetail
import ArchiveCensus.Proofs.Text.Padding
import Mathlib.Data.List.Basic

/-!
# Proofs/Metadata/ToolDetail — a tool is read back from any layout of its detail

A detail lists a program, a version and other segments in any order, with padding around each, and
the values in quotes or bare.  Three layers are trimmed when it is read — the detail, its segments,
the quotes — and none of them cuts into a value:

* padding around the detail is padding around its first and its last segment
  (`map_strip_segments_strip`),
* a segment that gives a value is left with the key and the value as it is spelt
  (`Gives.strip_eq`),
* and the quotes come off a value whose own ends have none (`Spells.strip_eq`).

So the detail gives the values that were laid out (`tool_laidOut`).
-/

namespace ArchiveCensus.ToolDetail

open Text

/-! ## Layouts -/

/-- A value that can be laid out: not empty, in one segment, and without quotes at its ends. -/
structure IsValue (value : String) : Prop where
  ne_empty : value ≠ ""
  one_segment : ';' ∉ value.toList
  unquoted : EdgesFree (· == '"') value.toList

/-- How a value is spelt in its segment: in quotes, or bare if there is no padding at its ends. -/
inductive Spells (value : List Char) : List Char → Prop where
  | quoted : Spells value ('"' :: (value ++ ['"']))
  | bare (h : EdgesFree isPadding value) : Spells value value

/-- A segment gives a value to a key, with any padding around the two. -/
inductive Gives (key value : String) : List Char → Prop where
  | intro (front back : List Char) {spelt : List Char} (hvalue : IsValue value)
      (hspelt : Spells value.toList spelt)
      (hfront : ∀ c ∈ front, isPadding c = true) (hback : ∀ c ∈ back, isPadding c = true) :
      Gives key value (front ++ (key.toList ++ spelt) ++ back)

/-- A segment that is neither a program nor a version. -/
structure IsOther (segment : List Char) : Prop where
  one_segment : ';' ∉ segment
  no_program : ¬ "program=".toList <+: strip isPadding segment
  no_version : ¬ "version=".toList <+: strip isPadding segment

/-- Segments in any order: one for the program, if there is one, one for the version, if there is
one, and any number of others. -/
inductive LaidOut : Option String → Option String → List (List Char) → Prop where
  | nil : LaidOut none none []
  | program {x : String} {version : Option String} {segment : List Char} {rest : List (List Char)}
      (hgives : Gives "program=" x segment) (hrest : LaidOut none version rest) :
      LaidOut (some x) version (segment :: rest)
  | version {program : Option String} {y : String} {segment : List Char} {rest : List (List Char)}
      (hgives : Gives "version=" y segment) (hrest : LaidOut program none rest) :
      LaidOut program (some y) (segment :: rest)
  | other {program version : Option String} {segment : List Char} {rest : List (List Char)}
      (hother : IsOther segment) (hrest : LaidOut program version rest) :
      LaidOut program version (segment :: rest)

/-- A program and a version, or the one that there is. -/
def described : Option String → Option String → String
  | some x, some y => x ++ " " ++ y
  | some x, none => x
  | none, some y => y
  | none, none => ""

variable {key value : String} {segment cs front back spelt : List Char}

/-! ## Trimming the detail -/

/-- Padding sets off no segments. -/
theorem ne_semicolon_of_padding {c : Char} (h : isPadding c = true) : c ≠ ';' := by
  rintro rfl
  exact absurd h (by decide)

/-- What stands before a text stands before its first segment, -/
theorem exists_segments_front (hfront : ∀ c ∈ front, c ≠ ';') (cs : List Char) : ∃ first rest,
    segments cs = first :: rest ∧ segments (front ++ cs) = (front ++ first) :: rest := by
  induction front with
  | nil =>
    obtain ⟨first, rest, h⟩ := List.exists_cons_of_ne_nil (List.splitOn_ne_nil ';' cs)
    exact ⟨first, rest, h, h⟩
  | cons c front ih =>
    obtain ⟨first, rest, hcs, hfrontCs⟩ := ih fun d hd => hfront d (List.mem_cons_of_mem c hd)
    refine ⟨first, rest, hcs, ?_⟩
    rw [segments, List.cons_append, List.splitOn_cons_eq_if_modifyHead,
      if_neg (by simpa using hfront c List.mem_cons_self), ← segments, hfrontCs]
    rfl

/-- and what stands behind it, behind its last one. -/
theorem exists_segments_back (hback : ∀ c ∈ back, c ≠ ';') : ∀ cs : List Char, ∃ init last,
    segments cs = init ++ [last] ∧ segments (cs ++ back) = init ++ [last ++ back]
  | [] => ⟨[], [], rfl, List.splitOn_eq_singleton fun h => hback ';' h rfl⟩
  | c :: cs => by
    obtain ⟨init, last, hcs, hback⟩ := exists_segments_back hback cs
    rw [segments, segments, List.cons_append, List.splitOn_cons_eq_if_modifyHead,
      List.splitOn_cons_eq_if_modifyHead, ← segments, ← segments, hcs, hback]
    -- a semicolon starts a segment, and any other character joins the first one
    split
    · exact ⟨[] :: init, last, rfl, rfl⟩
    · obtain _ | ⟨first, init⟩ := init
      · exact ⟨[], c :: last, rfl, rfl⟩
      · exact ⟨(c :: first) :: init, last, rfl, rfl⟩

/-- **The trimmed segments are the same before the detail is trimmed.** -/
theorem map_strip_segments_strip (cs : List Char) :
    (segments (strip isPadding cs)).map (strip isPadding) =
      (segments cs).map (strip isPadding) := by
  obtain ⟨front, back, hfront, hback, hcs⟩ := exists_eq_strip isPadding cs
  obtain ⟨first, rest, hstrip, hbefore⟩ := exists_segments_front
    (fun c hc => ne_semicolon_of_padding (hfront c hc)) (strip isPadding cs)
  obtain ⟨init, last, hends, hbehind⟩ := exists_segments_back
    (fun c hc => ne_semicolon_of_padding (hback c hc)) (front ++ strip isPadding cs)
  have hfirst : strip isPadding (front ++ first) = strip isPadding first := by
    rw [← List.append_nil (front ++ first), strip_padded hfront (List.forall_mem_nil _)]
  have hlast : strip isPadding (last ++ back) = strip isPadding last := by
    rw [← List.nil_append (last ++ back), ← List.append_assoc,
      strip_padded (List.forall_mem_nil _) hback]
  calc (segments (strip isPadding cs)).map (strip isPadding)
      = (segments (front ++ strip isPadding cs)).map (strip isPadding) := by
        rw [hstrip, hbefore, List.map_cons, List.map_cons, hfirst]
    _ = (segments (front ++ strip isPadding cs ++ back)).map (strip isPadding) := by
        rw [hends, hbehind, List.map_append, List.map_append, List.map_singleton,
          List.map_singleton, hlast]
    _ = (segments cs).map (strip isPadding) := by rw [← hcs]

/-- The values that segments give to a key. -/
def given (key : String) (segs : List (List Char)) : List String :=
  segs.filterMap fun s => valueFor? key (strip isPadding s)

theorem given_cons (key : String) (segment : List Char) (segs : List (List Char)) :
    given key (segment :: segs) =
      (valueFor? key (strip isPadding segment)).toList ++ given key segs := by
  rw [given, List.filterMap_cons]
  split <;> rename_i hvalue <;> rw [hvalue] <;> rfl

/-- So a key has the same value before the detail is trimmed. -/
theorem valueOf_strip (key : String) (cs : List Char) :
    valueOf key (strip isPadding cs) = valueOf key cs := by
  have hgiven : ∀ segs,
      given key segs = (segs.map (strip isPadding)).filterMap (valueFor? key) := by
    intro segs
    rw [List.filterMap_map]
    rfl
  show (given key _).getLast?.getD "" = (given key _).getLast?.getD ""
  rw [hgiven, map_strip_segments_strip, ← hgiven]

/-! ## Values in their segments -/

/-- The quotes come off a value, and nothing else does. -/
theorem Spells.strip_eq (hvalue : IsValue value) (h : Spells value.toList spelt) :
    strip (· == '"') spelt = value.toList := by
  obtain _ | _ := h
  · rw [← List.singleton_append, ← List.append_assoc, strip_padded (by simp) (by simp),
      hvalue.unquoted.strip_eq]
  · exact hvalue.unquoted.strip_eq

/-- What ends a spelt value is not padding. -/
theorem Spells.exists_getLast? (hvalue : IsValue value) (h : Spells value.toList spelt) :
    ∃ c, spelt.getLast? = some c ∧ isPadding c = false := by
  obtain _ | hbare := h
  · exact ⟨'"', by rw [← List.cons_append, List.getLast?_concat], by decide⟩
  · have hlast := List.getLast?_eq_some_getLast (String.toList_eq_nil_iff.not.2 hvalue.ne_empty)
    exact ⟨_, hlast, hbare.2 _ hlast⟩

theorem Spells.one_segment (hvalue : IsValue value) (h : Spells value.toList spelt) :
    ';' ∉ spelt := by
  obtain _ | _ := h
  · simpa using hvalue.one_segment
  · exact hvalue.one_segment

/-! ## Reading a segment -/

/-- The two keys. -/
def keys : List String := ["program=", "version="]

theorem not_padding_of_head_key : ∀ key ∈ keys, key.toList.head?.map isPadding = some false := by
  decide

theorem length_key : ∀ key ∈ keys, key.toList.length = 8 := by decide

theorem not_mem_key : ∀ key ∈ keys, ';' ∉ key.toList := by decide

theorem valueFor?_append (key : String) (cs : List Char) :
    valueFor? key (key.toList ++ cs) = some (String.ofList (strip (· == '"') cs)) := by
  rw [valueFor?, List.isPrefixOf?_eq_some_iff_append_eq.2 rfl, Option.map_some]

theorem valueFor?_eq_none (h : ¬ key.toList <+: cs) : valueFor? key cs = none := by
  rw [valueFor?, Option.map_eq_none_iff, Option.eq_none_iff_forall_ne_some]
  intro rest hrest
  exact h ⟨rest, List.isPrefixOf?_eq_some_iff_append_eq.1 hrest⟩

theorem Gives.isValue (h : Gives key value segment) : IsValue value := by
  obtain ⟨-, -, hvalue, -⟩ := h
  exact hvalue

/-- **A trimmed segment is the key and the value as it is spelt.** -/
theorem Gives.strip_eq (hkey : key ∈ keys) (h : Gives key value segment) :
    ∃ spelt, Spells value.toList spelt ∧ strip isPadding segment = key.toList ++ spelt := by
  obtain ⟨front, back, hvalue, hspelt, hfront, hback⟩ := h
  refine ⟨_, hspelt, ?_⟩
  obtain ⟨c, hc, hpadding⟩ := Option.map_eq_some_iff.1 (not_padding_of_head_key key hkey)
  obtain ⟨d, hd, hlast⟩ := hspelt.exists_getLast? hvalue
  rw [strip_padded hfront hback]
  refine EdgesFree.strip_eq ⟨?_, ?_⟩
  · simpa [List.head?_append, hc] using hpadding
  · simpa [List.getLast?_append, hd] using hlast

/-- **So it gives the value to its key,** -/
theorem Gives.valueFor?_eq (hkey : key ∈ keys) (h : Gives key value segment) :
    valueFor? key (strip isPadding segment) = some value := by
  obtain ⟨spelt, hspelt, hstrip⟩ := h.strip_eq hkey
  rw [hstrip, valueFor?_append, hspelt.strip_eq h.isValue, String.ofList_toList]

/-- **and none to the other one.** -/
theorem Gives.valueFor?_other {other : String} (hkey : key ∈ keys) (hother : other ∈ keys)
    (hne : other ≠ key) (h : Gives key value segment) :
    valueFor? other (strip isPadding segment) = none := by
  obtain ⟨spelt, -, hstrip⟩ := h.strip_eq hkey
  refine valueFor?_eq_none fun hprefix => ?_
  obtain ⟨rest, hrest⟩ := hprefix
  rw [hstrip] at hrest
  have hlength : other.toList.length = key.toList.length := by
    rw [length_key other hother, length_key key hkey]
  exact hne (String.toList_inj.1 (List.append_inj_left hrest hlength))

theorem Gives.one_segment (hkey : key ∈ keys) (h : Gives key value segment) : ';' ∉ segment := by
  obtain ⟨front, back, hvalue, hspelt, hfront, hback⟩ := h
  have hpadding : ∀ cs : List Char, (∀ c ∈ cs, isPadding c = true) → ';' ∉ cs := fun cs hcs hmem =>
    ne_semicolon_of_padding (hcs _ hmem) rfl
  simp only [List.mem_append, not_or]
  exact ⟨⟨hpadding _ hfront, not_mem_key key hkey, hspelt.one_segment hvalue⟩, hpadding _ hback⟩

/-- Another segment gives no value to any key. -/
theorem IsOther.valueFor?_eq (hkey : key ∈ keys) (h : IsOther segment) :
    valueFor? key (strip isPadding segment) = none := by
  refine valueFor?_eq_none ?_
  obtain rfl | rfl : key = "program=" ∨ key = "version=" := by simpa [keys] using hkey
  · exact h.no_program
  · exact h.no_version

/-! ## Reading a layout -/

section

variable {program version : Option String} {segs : List (List Char)}

theorem LaidOut.one_segment (h : LaidOut program version segs) : ∀ s ∈ segs, ';' ∉ s := by
  induction h with
  | nil => exact List.forall_mem_nil _
  | program hgives _ ih => exact List.forall_mem_cons.2 ⟨hgives.one_segment (by decide), ih⟩
  | version hgives _ ih => exact List.forall_mem_cons.2 ⟨hgives.one_segment (by decide), ih⟩
  | other hother _ ih => exact List.forall_mem_cons.2 ⟨hother.one_segment, ih⟩

theorem LaidOut.isValue (h : LaidOut program version segs) :
    (∀ x ∈ program, IsValue x) ∧ ∀ y ∈ version, IsValue y := by
  induction h with
  | nil => simp
  | program hgives _ ih => exact ⟨by simpa using hgives.isValue, ih.2⟩
  | version hgives _ ih => exact ⟨ih.1, by simpa using hgives.isValue⟩
  | other _ _ ih => exact ih

/-- **The segments give what was laid out, in any order.** -/
theorem LaidOut.given_eq (h : LaidOut program version segs) :
    given "program=" segs = program.toList ∧ given "version=" segs = version.toList := by
  induction h with
  | nil => exact ⟨rfl, rfl⟩
  | program hgives _ ih =>
    rw [given_cons, given_cons, hgives.valueFor?_eq (by decide),
      hgives.valueFor?_other (by decide) (by decide) (by decide), ih.1, ih.2]
    exact ⟨rfl, rfl⟩
  | version hgives _ ih =>
    rw [given_cons, given_cons, hgives.valueFor?_eq (by decide),
      hgives.valueFor?_other (by decide) (by decide) (by decide), ih.1, ih.2]
    exact ⟨rfl, rfl⟩
  | other hother _ ih =>
    rw [given_cons, given_cons, hother.valueFor?_eq (by decide), hother.valueFor?_eq (by decide)]
    exact ih

/-- Joined segments are read one by one; where there is none, no key has a value. -/
theorem valueOf_intercalate (hkey : key ∈ keys) (h : ∀ s ∈ segs, ';' ∉ s) :
    valueOf key ([';'].intercalate segs) = (given key segs).getLast?.getD "" := by
  rcases eq_or_ne segs [] with rfl | hne
  · have hnone : ∀ key ∈ keys, valueOf key [] = "" := by decide
    exact hnone key hkey
  · rw [valueOf, segments, List.splitOn_intercalate ';' h hne, given]

/-- **A tool is read back from any layout of its detail.** -/
theorem tool_laidOut (h : LaidOut program version segs) :
    tool (String.ofList ([';'].intercalate segs)) = described program version := by
  obtain ⟨hprogram, hversion⟩ := h.given_eq
  have hlast : ∀ value : Option String, value.toList.getLast?.getD "" = value.getD "" := by
    rintro (_ | value) <;> rfl
  -- only a value that is missing reads as the empty text
  have hgiven : ∀ value : Option String, (∀ x ∈ value, IsValue x) →
      (value.getD "").isEmpty = value.isNone := by
    rintro (_ | value) hvalue
    · rfl
    · exact String.isEmpty_eq_false_iff.2 (hvalue value rfl).ne_empty
  simp only [tool, String.toList_ofList, valueOf_strip,
    valueOf_intercalate (show "program=" ∈ keys by decide) h.one_segment,
    valueOf_intercalate (show "version=" ∈ keys by decide) h.one_segment, hprogram, hversion, hlast,
    hgiven _ h.isValue.1, hgiven _ h.isValue.2]
  rcases program with _ | x <;> rcases version with _ | y <;> rfl

end

/-- The segments of a detail: some give no value, and the values have quotes and keys in them. -/
def identified : List (List Char) :=
  [" note ".toList, [], "program=a\"b=version=c\t".toList, "\u3000version=\" 1.9 \" ".toList,
    " program = x".toList]

theorem tool_laidOut_identified :
    LaidOut (some "a\"b=version=c") (some " 1.9 ") identified ∧
    tool (String.ofList ([';'].intercalate identified)) = "a\"b=version=c  1.9 " := by
  have hprogram : Gives "program=" "a\"b=version=c" "program=a\"b=version=c\t".toList :=
    .intro [] ['\t'] ⟨by decide, by decide, by decide⟩ (.bare (by decide))
      (List.forall_mem_nil _) (List.all_eq_true.1 rfl)
  have hversion : Gives "version=" " 1.9 " "\u3000version=\" 1.9 \" ".toList :=
    .intro ['\u3000'] [' '] ⟨by decide, by decide, by decide⟩ .quoted
      (List.all_eq_true.1 rfl) (List.all_eq_true.1 rfl)
  have hlaidOut : LaidOut (some "a\"b=version=c") (some " 1.9 ") identified :=
    .other ⟨by decide, by decide, by decide⟩ <| .other ⟨by decide, by decide, by decide⟩ <|
      .program hprogram <| .version hversion <| .other ⟨by decide, by decide, by decide⟩ .nil
  exact ⟨hlaidOut, tool_laidOut hlaidOut⟩

end ArchiveCensus.ToolDetail
