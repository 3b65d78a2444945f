import ArchiveCensus.Json.Reading

/-!
# Proofs/Text/Padding — what is left of a text with padding around it

What is of a class at the ends of a text makes no difference when the text is stripped of the class,
and a text whose ends are free of the class comes out whole.

* `strip_padded` — what stands around a text makes no difference.
* `EdgesFree.strip_eq` — nothing is lost of a text whose ends are free.
* `label_padded` — so a document that is such a text, padded, has it as its label.
-/

namespace ArchiveCensus.Text

variable {p : Char → Bool} {front cs back : List Char}

/-- Neither end of the text is a character of the class. -/
def EdgesFree (p : Char → Bool) (cs : List Char) : Prop :=
  (∀ c ∈ cs.head?, p c = false) ∧ ∀ c ∈ cs.getLast?, p c = false

instance : Decidable (EdgesFree p cs) :=
  decidable_of_iff (cs.head?.all (!p ·) = true ∧ cs.getLast?.all (!p ·) = true) (by
    simp only [EdgesFree, Option.all_eq_true, Bool.not_eq_true']
    rfl)

theorem dropWhile_eq_self (h : ∀ c ∈ cs.head?, p c = false) : cs.dropWhile p = cs := by
  cases cs with
  | nil => rfl
  | cons c cs => exact List.dropWhile_cons_of_neg (by simp [h c rfl])

theorem stripEnd_eq_self (h : ∀ c ∈ cs.getLast?, p c = false) : stripEnd p cs = cs := by
  have hlast : ∀ c ∈ cs.reverse.head?, p c = false := by
    rw [List.head?_reverse]
    exact h
  rw [stripEnd, dropWhile_eq_self hlast, List.reverse_reverse]

/-- **A text whose ends are free of the class is what is left of it.** -/
theorem EdgesFree.strip_eq (h : EdgesFree p cs) : strip p cs = cs := by
  rw [strip, dropWhile_eq_self h.1, stripEnd_eq_self h.2]

theorem edgesFree_of_forall (h : ∀ c ∈ cs, p c = false) : EdgesFree p cs :=
  ⟨fun c hc => h c (List.mem_of_mem_head? hc), fun c hc => h c (List.mem_of_mem_getLast? hc)⟩

theorem stripEnd_append (hback : ∀ c ∈ back, p c = true) :
    stripEnd p (cs ++ back) = stripEnd p cs := by
  rw [stripEnd, List.reverse_append,
    List.dropWhile_append_of_pos fun c hc => hback c (List.mem_reverse.1 hc), stripEnd]

/-- **What is of the class at the ends makes no difference.** -/
theorem strip_padded (hfront : ∀ c ∈ front, p c = true) (hback : ∀ c ∈ back, p c = true) :
    strip p (front ++ cs ++ back) = strip p cs := by
  rw [strip, strip, List.append_assoc, List.dropWhile_append_of_pos hfront, List.dropWhile_append]
  split
  · next hnone =>
    rw [List.isEmpty_iff.1 hnone, dropWhile_eq_nil.2 hback]
  · exact stripEnd_append hback

/-- A character of another class in front of a text stays there. -/
theorem stripEnd_cons {c : Char} (h : p c = false) (cs : List Char) :
    stripEnd p (c :: cs) = c :: stripEnd p cs := by
  rw [stripEnd, List.reverse_cons, List.dropWhile_append]
  split
  · next hnone => simp [stripEnd, List.isEmpty_iff.1 hnone, h]
  · simp [stripEnd]

theorem strip_stripEnd (p : Char → Bool) (cs : List Char) :
    strip p (stripEnd p cs) = strip p cs := by
  have hend : ∀ c ∈ (cs.reverse.takeWhile p).reverse, p c = true := fun c hc =>
    List.all_eq_true.1 List.all_takeWhile c (List.mem_reverse.1 hc)
  have hpadded : strip p ([] ++ stripEnd p cs ++ _) = _ := strip_padded (by simp) hend
  rwa [List.nil_append, stripEnd_append_takeWhile, eq_comm] at hpadded

/-- What is stripped of a text is of the class, and stands at its ends. -/
theorem exists_eq_strip (p : Char → Bool) (cs : List Char) : ∃ front back,
    (∀ c ∈ front, p c = true) ∧ (∀ c ∈ back, p c = true) ∧ cs = front ++ strip p cs ++ back := by
  refine ⟨cs.takeWhile p, ((cs.dropWhile p).reverse.takeWhile p).reverse,
    List.all_eq_true.1 List.all_takeWhile,
    fun c hc => List.all_eq_true.1 List.all_takeWhile c (List.mem_reverse.1 hc), ?_⟩
  rw [List.append_assoc, strip, stripEnd_append_takeWhile, List.takeWhile_append_dropWhile]

/-- What is left of a stripped text does not end with a character of the class. -/
theorem not_of_getLast?_strip {c : Char} (h : (strip p cs).getLast? = some c) : p c = false := by
  rw [strip, stripEnd, List.getLast?_reverse] at h
  have hnot := List.head?_dropWhile_not p (cs.dropWhile p).reverse
  rw [h] at hnot
  simpa using hnot

/-- The ends of a stripped text are free. -/
theorem edgesFree_strip (p : Char → Bool) (cs : List Char) : EdgesFree p (strip p cs) := by
  refine ⟨fun c hc => ?_, fun c => not_of_getLast?_strip⟩
  have hnot := List.head?_dropWhile_not p cs
  rw [← stripEnd_append_takeWhile p (cs.dropWhile p), ← strip, List.head?_append, hc] at hnot
  simpa using hnot

/-- A text is stripped alike where the class is kept. -/
theorem strip_map {f : Char → Char} (h : ∀ c, p (f c) = p c) (cs : List Char) :
    strip p (cs.map f) = (strip p cs).map f := by
  have hp : p ∘ f = p := funext h
  rw [strip, strip, stripEnd, stripEnd, List.dropWhile_map, ← List.map_reverse, List.dropWhile_map,
    hp, List.map_reverse]

theorem mem_of_mem_strip {c : Char} (h : c ∈ strip p cs) : c ∈ cs := by
  obtain ⟨front, back, -, -, hcs⟩ := exists_eq_strip p cs
  rw [hcs]
  exact List.mem_append_left _ (List.mem_append_right _ h)

/-- A text without padding is what is left of it with padding around it. -/
theorem strip_append (hfront : ∀ c ∈ front, p c = true) (hcs : ∀ c ∈ cs, p c = false)
    (hback : ∀ c ∈ back, p c = true) : strip p (front ++ cs ++ back) = cs := by
  rw [strip_padded hfront hback, (edgesFree_of_forall hcs).strip_eq]

/-- **The label of a padded text is the text**, if there is no padding in it. -/
theorem label_padded (hfront : ∀ c ∈ front, isPadding c = true)
    (hcs : ∀ c ∈ cs, isPadding c = false) (hback : ∀ c ∈ back, isPadding c = true) :
    (Json.str (String.ofList (front ++ cs ++ back))).label = String.ofList cs := by
  rw [Json.label, trim, String.toList_ofList, strip_append hfront hcs hback]

theorem label_of_not_padding (hcs : ∀ c ∈ cs, isPadding c = false) :
    (Json.str (String.ofList cs)).label = String.ofList cs := by
  rw [Json.label, trim, String.toList_ofList, (edgesFree_of_forall hcs).strip_eq]

end ArchiveCensus.Text
