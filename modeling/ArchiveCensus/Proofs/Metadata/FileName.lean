import ArchiveCensus.Proofs.Metadata.Tidy
import ArchiveCensus.Proofs.Text.Padding
import Mathlib.Data.List.Forall2

/-!
# Proofs/Metadata/FileName — what a path is split into

The name in a path is the end of it after the last separator, and the extension the end of the name
after its last dot.  Each is the longest end of a text without the characters that set it off, and
is trimmed once more.

* `IsRest` — the longest end of a text without a character of a class; there is always one
  (`isRest_afterLast`).
* `IsExtension.unique` — a name has one extension.
* `IsExtension.not_mem` — the extension has no dot and no separator.
* `splits_of_path` — the name and the extension of any path, which are the same whichever of the two
  separators stand in it.
-/

namespace ArchiveCensus

/-! ## Ends of texts -/

namespace Text

variable {p : Char → Bool} {cs : List Char}

/-- The longest end of a text without a character of a class. -/
structure IsRest (p : Char → Bool) (cs rest : List Char) : Prop where
  suffix : rest <:+ cs
  free : ∀ c ∈ rest, p c = false
  longest : ∀ other, other <:+ cs → (∀ c ∈ other, p c = false) → other <:+ rest

theorem isRest_afterLast (p : Char → Bool) (cs : List Char) : IsRest p cs (afterLast p cs) where
  suffix := afterLast_suffix p cs
  free := fun _ => not_of_mem_afterLast
  longest := by
    rintro other ⟨front, rfl⟩ hfree
    -- read backwards, the other end comes first, and all of it is taken
    have hkept : ∀ c ∈ other.reverse, (!p c) = true := by
      intro c hc
      rw [hfree c (List.mem_reverse.1 hc)]
      rfl
    rw [afterLast, List.reverse_append, List.takeWhile_append_of_pos hkept, List.reverse_append,
      List.reverse_reverse]
    exact List.suffix_append _ _

/-- What stands behind a character of the class is the rest, if there is none of the class in it. -/
theorem afterLast_append {front back : List Char} {d : Char} (hd : p d = true)
    (hback : ∀ c ∈ back, p c = false) : afterLast p (front ++ d :: back) = back := by
  have hkept : ∀ c ∈ back.reverse, (!p c) = true := by
    intro c hc
    rw [hback c (List.mem_reverse.1 hc)]
    rfl
  rw [afterLast, List.reverse_append, List.reverse_cons, List.append_assoc,
    List.takeWhile_append_of_pos hkept, List.singleton_append,
    List.takeWhile_cons_of_neg (by simp [hd]), List.append_nil, List.reverse_reverse]

/-- Either nothing of the class is in a text, or the last of it stands before the rest. -/
theorem afterLast_cases (p : Char → Bool) (cs : List Char) :
    (afterLast p cs = cs ∧ ∀ c ∈ cs, p c = false) ∨
      ∃ front d, p d = true ∧ cs = front ++ d :: afterLast p cs := by
  have hparts := List.takeWhile_append_dropWhile (p := (!p ·)) (l := cs.reverse)
  rcases hdropped : cs.reverse.dropWhile (!p ·) with _ | ⟨d, rest⟩
  · have hrest : afterLast p cs = cs := by
      rw [hdropped, List.append_nil] at hparts
      rw [afterLast, hparts, List.reverse_reverse]
    refine .inl ⟨hrest, fun c hc => ?_⟩
    rw [← hrest] at hc
    exact not_of_mem_afterLast hc
  · have hd := List.head?_dropWhile_not (!p ·) cs.reverse
    rw [hdropped] at hd
    refine .inr ⟨rest.reverse, d, by simpa using hd, ?_⟩
    rw [← List.reverse_inj, ← hparts, hdropped]
    simp [afterLast]

end Text

open Text

namespace FileName

/-! ## Separators -/

/-- Two paths that differ only in which separators stand in them. -/
def Alike (path path' : List Char) : Prop :=
  List.Forall₂ (fun c c' => c = c' ∨ isSeparator c = true ∧ isSeparator c' = true) path path'

/-- A slash for any separator; the other characters stay. -/
def slashed (c : Char) : Char := if isSeparator c then '/' else c

theorem isSeparator_slashed (c : Char) : isSeparator (slashed c) = isSeparator c := by
  rw [slashed]
  split
  · next h => rw [h]; rfl
  · rfl

/-- A separator is no padding, whichever it is. -/
theorem isPadding_slashed (c : Char) : isPadding (slashed c) = isPadding c := by
  rw [slashed]
  split
  · next h =>
    obtain rfl | rfl : c = '/' ∨ c = '\\' := by simpa [isSeparator] using h
    all_goals rfl
  · rfl

theorem Alike.map_slashed {path path' : List Char} (h : Alike path path') :
    path'.map slashed = path.map slashed := by
  induction h with
  | nil => rfl
  | cons hsame _ ih =>
    obtain rfl | ⟨hc, hc'⟩ := hsame
    · rw [List.map_cons, List.map_cons, ih]
    · rw [List.map_cons, List.map_cons, ih, slashed, slashed, if_pos hc, if_pos hc']

/-- **The name is the same with slashes for all separators**, for it has none of them. -/
theorem nameChars_slashed (path : List Char) : nameChars (path.map slashed) = nameChars path := by
  have hseparators : (fun c => !isSeparator c) ∘ slashed = fun c => !isSeparator c := by
    ext c
    rw [Function.comp_apply, isSeparator_slashed]
  have hrest : (afterLast isSeparator (strip isPadding path)).map slashed =
      afterLast isSeparator (strip isPadding path) := by
    conv_rhs => rw [← List.map_id (afterLast _ _)]
    refine List.map_congr_left fun c hc => ?_
    rw [slashed, not_of_mem_afterLast hc]
    rfl
  rw [nameChars, strip_map isPadding_slashed, nameChars, ← hrest, afterLast, afterLast,
    ← List.map_reverse, List.takeWhile_map, hseparators, List.map_reverse]

theorem Alike.nameChars_eq {path path' : List Char} (h : Alike path path') :
    nameChars path' = nameChars path := by
  rw [← nameChars_slashed path', h.map_slashed, nameChars_slashed]

/-! ## Names and extensions -/

/-- The extension of a name: what follows its last dot, trimmed and in lower case, and `unknown` if
nothing follows a dot. -/
inductive IsExtension (name : String) : String → Prop where
  | unknown (h : '.' ∉ name.toList ∨ name.toList.getLast? = some '.') : IsExtension name "unknown"
  | afterDot {front back : List Char} (hname : name.toList = front ++ '.' :: back)
      (hlast : '.' ∉ back) (hne : back ≠ []) :
      IsExtension name (lower (trim (String.ofList back)))

/-- What a path is split into: a name and an extension, by the separators and the dots in it. -/
structure Splits (path name extension : String) : Prop where
  exists_isRest : ∃ rest, IsRest isSeparator (trim path).toList rest ∧
    name = trim (String.ofList rest)
  isExtension : IsExtension name extension
  ne_empty : extension ≠ ""
  free : '.' ∉ extension.toList ∧ '/' ∉ extension.toList ∧ '\\' ∉ extension.toList

/-- There is no separator in a name. -/
theorem not_isSeparator_of_mem_nameChars {path : List Char} {c : Char} (h : c ∈ nameChars path) :
    isSeparator c = false :=
  not_of_mem_afterLast (mem_of_mem_strip h)

/-- The extension is told by the last dot in the name. -/
theorem isExtension_extension (path : String) : IsExtension (ofPath path) (extension path) := by
  have hname : (ofPath path).toList = nameChars path.toList := String.toList_ofList
  rw [extension]
  -- the suffix is as long as the name only where there is no dot in it
  obtain ⟨hsuffix, hnone⟩ | ⟨front, d, hd, hcut⟩ :=
    afterLast_cases (· == '.') (nameChars path.toList)
  · have hdot : '.' ∉ nameChars path.toList := fun hmem => absurd (hnone _ hmem) (by decide)
    rw [if_pos (by simp [hsuffix])]
    exact .unknown (.inl (hname ▸ hdot))
  · obtain rfl : d = '.' := beq_iff_eq.1 hd
    have hback : '.' ∉ afterLast (· == '.') (nameChars path.toList) := fun hmem =>
      absurd (not_of_mem_afterLast hmem) (by decide)
    generalize afterLast (· == '.') (nameChars path.toList) = back at hcut hback
    rw [hcut] at hname
    rcases eq_or_ne back [] with rfl | hne
    · exact .unknown (.inr (by rw [hname, List.getLast?_concat]))
    · have hlength : back.length ≠ (nameChars path.toList).length := by
        rw [hcut, List.length_append, List.length_cons]
        omega
      rw [if_neg (by simp [hne, hlength])]
      have hspec := IsExtension.afterDot hname hback hne
      rwa [trim, String.toList_ofList] at hspec

/-- Where something follows the last dot, there is a dot, and it does not end the name. -/
theorem not_unknown_of_afterDot {name front back : List Char} (hname : name = front ++ '.' :: back)
    (hlast : '.' ∉ back) (hne : back ≠ []) : ¬ ('.' ∉ name ∨ name.getLast? = some '.') := by
  subst hname
  rintro (hnone | hends)
  · exact hnone (List.mem_append_right _ List.mem_cons_self)
  · rw [List.getLast?_append_of_ne_nil _ (List.cons_ne_nil _ _), List.getLast?_cons_of_ne_nil hne]
      at hends
    exact hlast (List.mem_of_getLast? hends)

/-- **A name has one extension.** -/
theorem IsExtension.unique {name extension extension' : String} (h : IsExtension name extension)
    (h' : IsExtension name extension') : extension = extension' := by
  have hfree : ∀ {back : List Char}, '.' ∉ back → ∀ c ∈ back, (c == '.') = false :=
    fun hback c hc => beq_eq_false_iff_ne.2 fun hdot => hback (hdot ▸ hc)
  cases h with
  | unknown hnone =>
    cases h' with
    | unknown => rfl
    | afterDot hname hlast hne => exact absurd hnone (not_unknown_of_afterDot hname hlast hne)
  | @afterDot front back hname hlast hne =>
    cases h' with
    | unknown hnone => exact absurd hnone (not_unknown_of_afterDot hname hlast hne)
    | @afterDot front' back' hname' hlast' _ =>
      have hsame : back = back' := calc
        back = afterLast (· == '.') (front ++ '.' :: back) :=
          (afterLast_append (p := (· == '.')) (beq_self_eq_true '.') (hfree hlast)).symm
        _ = afterLast (· == '.') (front' ++ '.' :: back') := by rw [← hname, hname']
        _ = back' := afterLast_append (beq_self_eq_true '.') (hfree hlast')
      rw [hsame]

/-- There is no dot and no separator in an extension: its characters are letters, or stand in the
name behind its last dot. -/
theorem IsExtension.not_mem {name extension : String}
    (hname : ∀ c ∈ name.toList, isSeparator c = false) (h : IsExtension name extension) {c : Char}
    (hc : c = '.' ∨ c = '/' ∨ c = '\\') : c ∉ extension.toList := by
  obtain _ | ⟨hcut, hlast, -⟩ := h
  · obtain rfl | rfl | rfl := hc <;> decide
  · intro hmem
    obtain hback | hletter := mem_lower hmem
    · rw [toList_trim, String.toList_ofList] at hback
      have hin := mem_of_mem_strip hback
      have hseparator := hname c (hcut ▸ List.mem_append_right _ (List.mem_cons_of_mem _ hin))
      obtain rfl | rfl | rfl := hc
      · exact hlast hin
      · cases hseparator
      · cases hseparator
    · obtain rfl | rfl | rfl := hc <;> exact absurd hletter (by decide)

/-- **A path is split into its name and its extension**, and into the same ones whichever separators
stand in it. -/
theorem splits_of_path (path : String) : Splits path (ofPath path) (extension path) ∧
    ∀ path' : String, Alike path.toList path'.toList →
      ofPath path' = ofPath path ∧ extension path' = extension path := by
  have hseparators : ∀ c ∈ (ofPath path).toList, isSeparator c = false := by
    intro c hc
    rw [ofPath, String.toList_ofList] at hc
    exact not_isSeparator_of_mem_nameChars hc
  have hextension := isExtension_extension path
  refine ⟨⟨⟨_, isRest_afterLast isSeparator _, ?_⟩, hextension, extension_ne_empty path, ?_⟩,
    fun path' halike => ?_⟩
  · rw [ofPath, nameChars, trim, String.toList_ofList, toList_trim]
  · exact ⟨hextension.not_mem hseparators (.inl rfl),
      hextension.not_mem hseparators (.inr (.inl rfl)),
      hextension.not_mem hseparators (.inr (.inr rfl))⟩
  · have hname := halike.nameChars_eq
    exact ⟨by rw [ofPath, hname, ofPath], by rw [extension, hname, extension]⟩

/-- A path with both separators, dots in its folders, and padding before its extension. -/
theorem splits_of_path_scan :
    Alike " C:\\v1.2/box\\Scan.Old. TIFF\u3000".toList " C:/v1.2/box/Scan.Old. TIFF\u3000".toList ∧
    ofPath " C:/v1.2/box/Scan.Old. TIFF\u3000" = "Scan.Old. TIFF" ∧
    extension " C:/v1.2/box/Scan.Old. TIFF\u3000" = "tiff" := by
  have halike : Alike " C:\\v1.2/box\\Scan.Old. TIFF\u3000".toList
      " C:/v1.2/box/Scan.Old. TIFF\u3000".toList := by
    unfold Alike
    decide
  obtain ⟨hname, hextension⟩ := (splits_of_path _).2 _ halike
  exact ⟨halike, hname.trans (by decide), hextension.trans (by decide +kernel)⟩

end FileName

end ArchiveCensus
