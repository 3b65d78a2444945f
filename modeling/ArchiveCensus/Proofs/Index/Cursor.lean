import ArchiveCensus.Index.Cursor
import ArchiveCensus.Proofs.Json.Writer
import ArchiveCensus.Proofs.Text.Base64Url
import ArchiveCensus.Proofs.Text.Padding

/-!
# Proofs/Index/Cursor — what a cursor holds, and what none does

A cursor is a document under three coats: padding, the alphabet, and UTF-8.  Each coat comes off in
one way at most, so what is under them decides what reading the cursor comes to.

* `decode_eq_ok_iff` — a cursor holds documents exactly where what is read of it are documents.
* `decode_encode` — exact sort values come back from their cursor, with any padding around it.
* `read_outcome` — which cursors hold nothing, which hold a list, and which are faults: all others
  are malformed, but one with a whole number that is too long under its coats is a defect.
-/

namespace ArchiveCensus.Cursor

open Text Json Outcome

/-! ## Padding -/

theorem toNat_bounds_of_isAlphanum {c : Char} (h : c.isAlphanum = true) :
    0x30 ≤ c.toNat ∧ c.toNat ≤ 0x7A := by
  have h : (decide (c.val ≥ 'A'.val ∧ c.val ≤ 'Z'.val) || (c.val ≥ 'a'.val && c.val ≤ 'z'.val) ||
    (c.val ≥ '0'.val && c.val ≤ '9'.val)) = true := h
  simp only [Bool.or_eq_true, Bool.and_eq_true, decide_eq_true_eq, ge_iff_le,
    UInt32.le_iff_toNat_le, Char.toNat_val] at h
  obtain (h | h) | h := h
  · exact ⟨Nat.le_trans (by decide) h.1, Nat.le_trans h.2 (by decide)⟩
  · exact ⟨Nat.le_trans (by decide) h.1, Nat.le_trans h.2 (by decide)⟩
  · exact ⟨h.1, Nat.le_trans h.2 (by decide)⟩

/-- No symbol of the alphabet is padding. -/
theorem isPadding_of_isSymbol {c : Char} (h : Base64Url.IsSymbol c) : isPadding c = false := by
  have hbounds : 0x21 ≤ c.toNat ∧ c.toNat ≤ 0x7A := by
    obtain h | rfl | rfl := h
    · have h := toNat_bounds_of_isAlphanum h
      omega
    · decide
    · decide
  simp only [isPadding, isBlank, Bool.or_eq_false_iff, Bool.and_eq_false_iff,
    decide_eq_false_iff_not, beq_eq_false_iff_ne]
  omega

/-! ## Bytes -/

/-- A text of the alphabet holds a text when it spells the UTF-8 of that text. -/
def Holds (cs : List Char) (text : String) : Prop :=
  Base64Url.Spells cs text.toUTF8.data.toList

theorem fromUTF8?_eq_some_iff {bytes : List UInt8} {text : String} :
    String.fromUTF8? ⟨bytes.toArray⟩ = some text ↔ text.toUTF8.data.toList = bytes := by
  unfold String.fromUTF8?
  constructor
  · intro h
    split at h <;> cases h
    rfl
  · rintro rfl
    exact dif_pos text.isValidUTF8

/-- **The text of a cursor is the one it holds.** -/
theorem payload_eq_ok_iff {cs : List Char} {text : String} :
    payload cs = .ok text ↔ Holds cs text := by
  unfold payload Holds
  rw [← Base64Url.decode?_eq_some_iff]
  cases hbytes : Base64Url.decode? cs with
  | none => simp
  | some bytes =>
    rw [Option.some.injEq, eq_comm (a := bytes), ← fromUTF8?_eq_some_iff]
    dsimp only
    cases String.fromUTF8? ⟨bytes.toArray⟩ with
    | none => simp
    | some text' => simp

theorem payload_error {cs : List Char} {fault : Fault} (h : payload cs = .error fault) :
    ∃ flaw, fault = .malformedCursor flaw := by
  unfold payload at h
  split at h
  · cases h
    exact ⟨_, rfl⟩
  · split at h <;> cases h
    exact ⟨_, rfl⟩

/-! ## Documents -/

theorem values_eq_ok_iff {text : String} {raws : List Raw} :
    values text = .ok raws ↔ SpellsDocument text.toList (.arr raws) := by
  rw [← parse_eq_ok_iff]
  unfold values
  split <;> simp_all

theorem values_defect_iff {text : String} {digits : Nat} :
    values text = .error (.defect (.wholeTooLong digits)) ↔ BreaksDocument digits text.toList := by
  rw [← parse_eq_wholeTooLong_iff]
  unfold values
  split <;> simp_all

theorem values_error {text : String} {fault : Fault} (h : values text = .error fault) :
    (∃ flaw, fault = .malformedCursor flaw) ∨
      ∃ digits, Numeral.maxDigits < digits ∧ fault = .defect (.wholeTooLong digits) := by
  unfold values at h
  split at h <;> cases h
  · exact .inl ⟨_, rfl⟩
  · exact .inl ⟨_, rfl⟩
  · rename_i digits hparse
    obtain ⟨_, _, -, hbreaks, -⟩ := parse_eq_wholeTooLong_iff.1 hparse
    exact .inr ⟨digits, hbreaks.maxDigits_lt, rfl⟩

/-! ## Cursors -/

/-- What is under padding is a text or a fault of the cursor, and the sort values are those of the
text. -/
theorem read_eq (cursor : String) :
    read cursor = if trim cursor = "" then .ok none else
      payload (trim cursor).toList >>= fun text => values text >>= fun raws => .ok (some raws) := by
  rw [toList_trim]
  by_cases h : strip isPadding cursor.toList = []
  · have hempty : trim cursor = "" := by rw [trim, h, String.ofList_nil]
    rw [if_pos hempty, read, h]
  · have hempty : trim cursor ≠ "" := by simpa [trim] using h
    rw [if_neg hempty]
    unfold read
    split
    · exact absurd ‹_› h
    · cases payload (strip isPadding cursor.toList) <;> rfl

/-- Sort values are documents exactly where they are the raw forms of these. -/
theorem narrow_eq_ok_iff {held : Option (List Raw)} {vs : List Json} :
    narrow held = .ok (some vs) ↔ held = some (Raw.itemsOfJson vs) := by
  cases held with
  | none => simp [narrow]
  | some raws =>
    rw [Option.some.injEq, ← Raw.itemsToJson?_eq_some_iff, narrow]
    cases Raw.itemsToJson? raws <;> simp

/-- What is read fails to be documents in one way only. -/
theorem narrow_error {held : Option (List Raw)} {fault : Fault} (h : narrow held = .error fault) :
    fault = .defect .loneHalf := by
  unfold narrow at h
  split at h
  · cases h
  · split at h <;> cases h
    rfl

/-- **A cursor holds documents exactly where what is read of it are documents.** -/
theorem decode_eq_ok_iff {cursor : String} {vs : List Json} :
    decode cursor = .ok (some vs) ↔ read cursor = .ok (some (Raw.itemsOfJson vs)) := by
  rw [decode, bind_eq_ok_iff]
  simp only [narrow_eq_ok_iff, exists_eq_right]

theorem decode_of_read {cursor : String} {held : Option (List Raw)} (h : read cursor = .ok held) :
    decode cursor = narrow held := by
  rw [decode, h, ok_bind]

/-- What cannot be read is not decoded. -/
theorem decode_of_read_error {cursor : String} {fault : Fault} (h : read cursor = .error fault) :
    decode cursor = .error fault := by
  rw [decode, h, error_bind]

/-- The text of the alphabet that holds a text. -/
def armor (text : String) : List Char :=
  Base64Url.encode text.toUTF8.data.toList

theorem holds_armor (text : String) : Holds (armor text) text :=
  Base64Url.decode?_eq_some_iff.1 (Base64Url.decode?_encode _)

theorem isSymbol_of_mem_armor {text : String} {c : Char} (h : c ∈ armor text) :
    Base64Url.IsSymbol c :=
  Base64Url.isSymbol_of_mem_encode h

theorem armor_ne_nil {text : String} (h : text ≠ "") : armor text ≠ [] := by
  refine Base64Url.encode_ne_nil fun hnil => h ?_
  rw [← String.toByteArray_inj]
  exact ByteArray.ext (Array.toList_eq_nil_iff.1 hnil)

/-- A text under the coats of a cursor, with padding around it, is read as the text. -/
theorem read_padded {text : String} (htext : text ≠ "") (front back : String)
    (hfront : ∀ c ∈ front.toList, isPadding c = true)
    (hback : ∀ c ∈ back.toList, isPadding c = true) :
    read (front ++ String.ofList (armor text) ++ back) =
      values text >>= fun raws => .ok (some raws) := by
  have htrim : trim (front ++ String.ofList (armor text) ++ back) = String.ofList (armor text) := by
    rw [trim, String.toList_append, String.toList_append, String.toList_ofList,
      strip_append hfront (fun c hc => isPadding_of_isSymbol (isSymbol_of_mem_armor hc)) hback]
  rw [read_eq, htrim, if_neg (by simpa using armor_ne_nil htext), String.toList_ofList,
    payload_eq_ok_iff.2 (holds_armor text), ok_bind]

theorem read_armor {text : String} (htext : text ≠ "") :
    read (String.ofList (armor text)) = values text >>= fun raws => .ok (some raws) := by
  simpa using read_padded htext "" "" (by simp) (by simp)

theorem encode_eq (vs : List Json) :
    encode vs = String.ofList (armor (render compact (.arr vs))) := rfl

theorem render_compact_ne (vs : List Json) : render compact (.arr vs) ≠ "" := by
  simp [render, write]

theorem encode_ne_empty (vs : List Json) : encode vs ≠ "" := by
  rw [encode_eq]
  simpa using armor_ne_nil (render_compact_ne vs)

/-- The cursor of exact sort values is read as these, with any padding around it. -/
theorem decode_padded {vs : List Json} (h : ∀ j ∈ vs, Exact j) (front back : String)
    (hfront : ∀ c ∈ front.toList, isPadding c = true)
    (hback : ∀ c ∈ back.toList, isPadding c = true) :
    decode (front ++ encode vs ++ back) = .ok (some vs) := by
  have hvalues : values (render compact (.arr vs)) = .ok (Raw.itemsOfJson vs) := by
    rw [values, render, String.toList_ofList, parse_write plain_compact (.arr h), Raw.ofJson]
  rw [decode_eq_ok_iff, encode_eq, read_padded (render_compact_ne vs) front back hfront hback,
    hvalues, ok_bind]

/-- **Exact sort values come back from their cursor**, with any padding around it.  The cursor is
not empty and is written in the alphabet. -/
theorem decode_encode {vs : List Json} (h : ∀ j ∈ vs, Exact j) :
    encode vs ≠ "" ∧ (∀ c ∈ (encode vs).toList, Base64Url.IsSymbol c) ∧
      ∀ front back : String, (∀ c ∈ front.toList, isPadding c = true) →
        (∀ c ∈ back.toList, isPadding c = true) →
        decode (front ++ encode vs ++ back) = .ok (some vs) := by
  refine ⟨encode_ne_empty vs, fun c hc => ?_, decode_padded h⟩
  rw [encode_eq, String.toList_ofList] at hc
  exact isSymbol_of_mem_armor hc

/-- Escapes, a negative number, nested lists and maps, and a character beyond the first plane. -/
theorem decode_encode_sample :
    let vs : List Json := [.str "a\"b\\\n\x01😀", .int (-12),
      .obj [("k", .arr [.null, .bool true, .arr []]), ("j", .obj [])]]
    (∀ j ∈ vs, Exact j) ∧ encode vs ≠ "" ∧ (∀ c ∈ (encode vs).toList, Base64Url.IsSymbol c) ∧
      ∀ front back : String, (∀ c ∈ front.toList, isPadding c = true) →
        (∀ c ∈ back.toList, isPadding c = true) →
        decode (front ++ encode vs ++ back) = .ok (some vs) := by
  intro vs
  have hvs : ∀ j ∈ vs, Exact j := by
    simp only [vs, List.forall_mem_cons]
    refine ⟨.str _, .whole (by decide), .obj (by decide) ?_, by simp⟩
    simp only [List.forall_mem_cons]
    refine ⟨.arr ?_, .obj (by simp) (by simp), by simp⟩
    simp only [List.forall_mem_cons]
    exact ⟨.null, .bool true, .arr (by simp), by simp⟩
  exact ⟨hvs, decode_encode hvs⟩

/-- **What reading a cursor comes to.**  It holds nothing exactly where only padding is there, and a
list exactly where the trimmed text holds one.  Every other cursor is malformed, unless what it
holds breaks off at a whole number with too many digits: that escapes as a defect. -/
theorem read_outcome (cursor : String) :
    (read cursor = .ok none ↔ trim cursor = "") ∧
    (∀ raws, read cursor = .ok (some raws) ↔
      ∃ text, Holds (trim cursor).toList text ∧ SpellsDocument text.toList (.arr raws)) ∧
    (∀ digits, read cursor = .error (.defect (.wholeTooLong digits)) ↔
      ∃ text, Holds (trim cursor).toList text ∧ BreaksDocument digits text.toList) ∧
    ∀ fault, read cursor = .error fault →
      (∃ flaw, fault = .malformedCursor flaw) ∨
        ∃ digits, Numeral.maxDigits < digits ∧ fault = .defect (.wholeTooLong digits) := by
  simp only [← payload_eq_ok_iff, ← values_eq_ok_iff, ← values_defect_iff]
  rw [read_eq]
  split_ifs with hempty
  · have hpayload : payload [] = .ok "" := rfl
    have hvalues : values "" = .error (.malformedCursor .payload) := rfl
    simp [hempty, hpayload, hvalues]
  refine ⟨by simp [bind_eq_ok_iff, hempty], fun raws => by simp [bind_eq_ok_iff], fun digits => ?_,
    fun fault h => ?_⟩
  · rw [bind_eq_error_iff]
    constructor
    · rintro (h | ⟨text, htext, h⟩)
      · obtain ⟨flaw, hflaw⟩ := payload_error h
        cases hflaw
      · exact ⟨text, htext, by simpa [bind_eq_error_iff] using h⟩
    · rintro ⟨text, htext, h⟩
      exact .inr ⟨text, htext, by rw [h, error_bind]⟩
  · rw [bind_eq_error_iff] at h
    obtain h | ⟨text, -, h⟩ := h
    · exact .inl (payload_error h)
    · exact values_error (by simpa [bind_eq_error_iff] using h)

/-- Half of a surrogate pair is no flaw of a cursor: a text with one is read.  But it is the text of
no document. -/
theorem read_half {body : List Char} {ls : List Letter} (h : SpellsLetters body ls) {u : Nat}
    {hhalf : isHighUnit u = true ∨ isLowUnit u = true} (hmem : .half u hhalf ∈ ls) :
    read (String.ofList (armor (String.ofList ('[' :: ('"' :: body ++ ['"'] ++ [']']))))) =
        .ok (some [.str ls]) ∧
      decode (String.ofList (armor (String.ofList ('[' :: ('"' :: body ++ ['"'] ++ [']']))))) =
        .error (.defect .loneHalf) := by
  have hvalues : values (String.ofList ('[' :: ('"' :: body ++ ['"'] ++ [']']))) =
      .ok [.str ls] := by
    rw [values_eq_ok_iff, String.toList_ofList]
    exact ⟨[], _, [], isGap_nil, isGap_nil, .list isGap_nil (.item (.text h) isGap_nil), by simp⟩
  have htext : Letter.toText? ls = none := by
    refine Option.eq_none_iff_forall_ne_some.2 fun s hs => ?_
    rw [Letter.toText?_eq_some_iff.1 hs] at hmem
    obtain ⟨c, -, hc⟩ := List.mem_map.1 hmem
    cases hc
  have hread := read_armor
    (show String.ofList ('[' :: ('"' :: body ++ ['"'] ++ [']'])) ≠ "" by simp)
  rw [hvalues, ok_bind] at hread
  refine ⟨hread, ?_⟩
  rw [decode_of_read hread, narrow, Raw.itemsToJson?, Raw.toJson?, htext]
  rfl

/-- A list of one whole number with too many digits is a defect, not a malformed cursor. -/
theorem read_armor_long {n : Nat} (h : Numeral.maxDigits < n) :
    read (String.ofList (armor (String.ofList ('[' :: (List.replicate n '1' ++ [']']))))) =
      .error (.defect (.wholeTooLong n)) := by
  obtain ⟨n, rfl⟩ : ∃ m, n = m + 1 := ⟨n - 1, by omega⟩
  have hdigits : IsDigits (List.replicate (n + 1) '1') :=
    ⟨by simp, fun c hc => by rw [List.eq_of_mem_replicate hc]; rfl⟩
  have hwhole : IsWhole (List.replicate (n + 1) '1') :=
    .inr ⟨hdigits, by simp [List.replicate_succ]⟩
  have hbreaks := BreaksAt.number false hwhole List.length_replicate h
    (ends_cons (c := ']') (by decide) []).endsNumber
  have hvalues : values (String.ofList ('[' :: (List.replicate (n + 1) '1' ++ [']']))) =
      .error (.defect (.wholeTooLong (n + 1))) := by
    rw [values_defect_iff, String.toList_ofList]
    exact ⟨[], _, isGap_nil, .list isGap_nil (.item hbreaks), rfl⟩
  rw [read_armor (by simp), hvalues, error_bind]

/-- So one digit more than the most is. -/
theorem read_long_whole :
    read (String.ofList (armor (String.ofList ('[' :: (List.replicate 4301 '1' ++ [']']))))) =
      .error (.defect (.wholeTooLong 4301)) :=
  read_armor_long (by decide)

end ArchiveCensus.Cursor
