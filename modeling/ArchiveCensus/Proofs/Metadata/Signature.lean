import ArchiveCensus.Metadata.Format

/-!
# Proofs/Metadata/Signature — which formats a signature tells apart

The signature of a format is its three texts with a separator between them, and nothing is escaped.
It is read back at its first two separators, so a format with a separator in its key or its name is
read back as another one.  Of the formats that share a signature, one is *legible*: it has neither.

* `Format.cut?_eq_some_iff` — what a text is cut into.
* `Format.ofSignature?_signature`, `Format.legible_read`, `Format.signature_read` — a signature is
  read back as a legible format, and this has the same signature.
* `Format.Legible.eq_of_signature_eq` — legible formats are told apart by their signatures.
* `Format.read_eq_self_iff` — which formats are read back as they were.
-/

namespace ArchiveCensus.Format

/-! ## Cutting a text -/

theorem cut?_cons (mark c : Char) (cs : List Char) : cut? [mark] (c :: cs) =
    if mark = c then some ([], cs)
    else (cut? [mark] cs).map fun (front, rest) => (c :: front, rest) := by
  have hfront : [mark].isPrefixOf? (c :: cs) = if mark == c then some cs else none := rfl
  rw [cut?, hfront]
  by_cases h : mark = c <;> simp [h]

/-- **A text is cut at the first place of its mark.** -/
theorem cut?_eq_some_iff {mark : Char} : ∀ {cs front rest : List Char},
    cut? [mark] cs = some (front, rest) ↔ cs = front ++ mark :: rest ∧ mark ∉ front
  | [], front, rest => by simp [cut?]
  | c :: cs, front, rest => by
    rw [cut?_cons]
    by_cases hc : mark = c
    · rw [if_pos hc]
      subst hc
      cases front with
      | nil => simp
      | cons d front =>
        refine iff_of_false (by simp) ?_
        rintro ⟨hcs, hnot⟩
        exact hnot (List.mem_cons.2 (.inl (List.cons.inj hcs).1))
    · rw [if_neg hc]
      cases front with
      | nil => simp [Ne.symm hc]
      | cons d front =>
        simp only [Option.map_eq_some_iff, Prod.exists, cut?_eq_some_iff, Prod.mk.injEq,
          List.cons.injEq, List.cons_append, List.mem_cons, not_or]
        constructor
        · rintro ⟨_, _, ⟨rfl, hnot⟩, ⟨rfl, rfl⟩, rfl⟩
          exact ⟨⟨rfl, rfl⟩, hc, hnot⟩
        · rintro ⟨⟨rfl, rfl⟩, -, hnot⟩
          exact ⟨front, rest, ⟨rfl, hnot⟩, ⟨rfl, rfl⟩, rfl⟩

/-- A text with its mark in it is cut. -/
theorem exists_cut? {mark : Char} {cs : List Char} (h : mark ∈ cs) :
    ∃ front rest, cut? [mark] cs = some (front, rest) ∧ cs = front ++ mark :: rest ∧
      mark ∉ front := by
  obtain ⟨front, rest, hcs, hnot⟩ := List.eq_append_cons_of_mem h
  exact ⟨front, rest, cut?_eq_some_iff.2 ⟨hcs, hnot⟩, hcs, hnot⟩

/-! ## Reading a signature back -/

/-- A format is legible if no separator stands in its key or in its name. -/
structure Legible (f : Format) : Prop where
  registryKey : separator ∉ f.registryKey.toList
  name : separator ∉ f.name.toList

theorem toList_signature (f : Format) : f.signature.toList =
    f.registryKey.toList ++ separator :: (f.name.toList ++ separator :: f.version.toList) := by
  rw [signature, String.toList_ofList, List.append_assoc, List.cons_append]

/-- **The signature of a legible format is read back as the format.** -/
theorem Legible.ofSignature?_eq {f : Format} (h : f.Legible) :
    ofSignature? [separator] f.signature = some f := by
  have hkey := cut?_eq_some_iff.2 ⟨f.toList_signature, h.registryKey⟩
  have hname := cut?_eq_some_iff.2
    ⟨(rfl : f.name.toList ++ separator :: f.version.toList = _), h.name⟩
  rw [ofSignature?, if_neg (by simp), hkey]
  dsimp only
  rw [hname]
  simp only [String.ofList_toList]

/-- **Legible formats are told apart by their signatures.** -/
theorem Legible.eq_of_signature_eq {f g : Format} (hf : f.Legible) (hg : g.Legible)
    (h : f.signature = g.signature) : f = g := by
  have hsame := hf.ofSignature?_eq
  rw [h, hg.ofSignature?_eq] at hsame
  exact (Option.some.inj hsame).symm

/-- What stands behind the key of a signature has one more separator. -/
theorem separator_mem_of_cut {f : Format} {key rest : List Char}
    (h : f.signature.toList = key ++ separator :: rest) (hkey : separator ∉ key) :
    separator ∈ rest := by
  have hcount := congrArg (List.count separator) h
  rw [toList_signature, List.count_append, List.count_cons_self, List.count_append,
    List.count_cons_self, List.count_append, List.count_cons_self,
    List.count_eq_zero_of_not_mem hkey] at hcount
  exact List.count_pos_iff.1 (by omega)

/-- Every signature is that of a legible format. -/
theorem exists_legible (f : Format) : ∃ g : Format, g.Legible ∧ g.signature = f.signature := by
  have hmark : separator ∈ f.signature.toList := by simp [toList_signature]
  obtain ⟨key, rest, -, hrest, hkey⟩ := exists_cut? hmark
  obtain ⟨name, version, -, hversion, hname⟩ := exists_cut? (separator_mem_of_cut hrest hkey)
  refine ⟨⟨String.ofList key, String.ofList name, String.ofList version⟩, ⟨?_, ?_⟩, ?_⟩
  · rwa [String.toList_ofList]
  · rwa [String.toList_ofList]
  · rw [← String.toList_inj, toList_signature, String.toList_ofList, String.toList_ofList,
      String.toList_ofList, hrest, hversion]

/-- A format as it is read back from its signature. -/
def read (f : Format) : Format := (ofSignature? [separator] f.signature).getD f

/-- What is read back is the legible format that has the signature. -/
theorem Legible.read_eq {f g : Format} (hg : g.Legible) (h : g.signature = f.signature) :
    f.read = g := by
  rw [read, ← h, hg.ofSignature?_eq, Option.getD_some]

/-- **Every signature is read back.** -/
theorem ofSignature?_signature (f : Format) :
    ofSignature? [separator] f.signature = some f.read := by
  obtain ⟨g, hg, hsame⟩ := f.exists_legible
  rw [hg.read_eq hsame, ← hsame, hg.ofSignature?_eq]

theorem legible_read (f : Format) : f.read.Legible := by
  obtain ⟨g, hg, hsame⟩ := f.exists_legible
  rwa [hg.read_eq hsame]

@[simp] theorem signature_read (f : Format) : f.read.signature = f.signature := by
  obtain ⟨g, hg, hsame⟩ := f.exists_legible
  rwa [hg.read_eq hsame]

/-- **The formats that are read back as they were are the legible ones.** -/
theorem read_eq_self_iff {f : Format} : f.read = f ↔ f.Legible :=
  ⟨fun h => h ▸ f.legible_read, fun h => h.read_eq rfl⟩

/-- A format is read back as a legible one exactly where they have one signature. -/
theorem Legible.read_eq_iff {f g : Format} (hg : g.Legible) :
    f.read = g ↔ f.signature = g.signature := by
  constructor
  · rintro rfl
    exact f.signature_read.symm
  · exact fun h => hg.read_eq h.symm

/-! ## Among several formats -/

/-- The signature of a legible format is among those of some formats where it is read back from
one of them, -/
theorem Legible.signature_mem_iff {g : Format} (hg : g.Legible) {formats : List Format} :
    g.signature ∈ formats.map signature ↔ g ∈ formats.map read := by
  simp only [List.mem_map, hg.read_eq_iff]

/-- and it is among them as often as it is read back. -/
theorem Legible.count_signature {g : Format} (hg : g.Legible) (formats : List Format) :
    (formats.map signature).count g.signature = (formats.map read).count g := by
  rw [List.count, List.count, List.countP_map, List.countP_map]
  refine List.countP_congr fun f _ => ?_
  simp only [Function.comp_apply, beq_iff_eq, hg.read_eq_iff]

end ArchiveCensus.Format
