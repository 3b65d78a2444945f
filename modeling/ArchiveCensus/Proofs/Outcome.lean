/-!
# Proofs/Outcome — what a step after a step comes to

A step that may fail, followed by another, has a value exactly where both have one, and fails
exactly where one of them does.
-/

namespace ArchiveCensus.Outcome

variable {ε α β : Type}

@[simp] theorem ok_bind (a : α) (f : α → Except ε β) : (Except.ok a >>= f) = f a := rfl

@[simp] theorem error_bind (e : ε) (f : α → Except ε β) : (Except.error e >>= f) = .error e := rfl

@[simp] theorem pure_eq_ok (a : α) : (pure a : Except ε α) = .ok a := rfl

/-- **A step after a step has a value exactly where both have one.** -/
theorem bind_eq_ok_iff {x : Except ε α} {f : α → Except ε β} {b : β} :
    x >>= f = .ok b ↔ ∃ a, x = .ok a ∧ f a = .ok b := by
  cases x with
  | ok a => simp
  | error e => simp

/-- **A step after a step fails exactly where one of them does.** -/
theorem bind_eq_error_iff {x : Except ε α} {f : α → Except ε β} {e : ε} :
    x >>= f = .error e ↔ x = .error e ∨ ∃ a, x = .ok a ∧ f a = .error e := by
  cases x with
  | ok a => simp
  | error e => simp

/-- What is made of the value of a step after a step. -/
theorem map_bind {γ : Type} (x : Except ε α) (f : α → Except ε β) (g : β → γ) :
    (x >>= f).map g = x >>= fun a => (f a).map g := by
  cases x <;> rfl

/-- **Each value of a run of steps is that of one of them.** -/
theorem exists_of_mem_mapM {f : α → Except ε β} : ∀ {items : List α} {values : List β},
    items.mapM f = .ok values → ∀ b ∈ values, ∃ a ∈ items, f a = .ok b
  | [], _, h, _, hb => by
    cases h
    cases hb
  | a :: rest, _, h, b, hb => by
    rw [List.mapM_cons] at h
    obtain ⟨first, hfirst, h⟩ := bind_eq_ok_iff.1 h
    obtain ⟨others, hothers, h⟩ := bind_eq_ok_iff.1 h
    cases h
    obtain rfl | hmem := List.mem_cons.1 hb
    · exact ⟨a, .head _, hfirst⟩
    · obtain ⟨a', ha', hb'⟩ := exists_of_mem_mapM hothers b hmem
      exact ⟨a', .tail _ ha', hb'⟩

/-- What each value of a run of steps is made into, where it can be told of what the step was
over. -/
theorem map_eq_map_of_mapM {γ : Type} {f : α → Except ε β} {g : β → γ} {g' : α → γ} :
    ∀ {items : List α} {values : List β}, (∀ a ∈ items, ∀ b, f a = .ok b → g b = g' a) →
      items.mapM f = .ok values → values.map g = items.map g'
  | [], _, _, h => by
    cases h
    rfl
  | a :: rest, _, hsame, h => by
    rw [List.mapM_cons] at h
    obtain ⟨first, hfirst, h⟩ := bind_eq_ok_iff.1 h
    obtain ⟨others, hothers, h⟩ := bind_eq_ok_iff.1 h
    cases h
    obtain ⟨hone, hmore⟩ := List.forall_mem_cons.1 hsame
    rw [List.map_cons, List.map_cons, hone first hfirst, map_eq_map_of_mapM hmore hothers]

/-- What undoes each step of a run gives back what the run was over. -/
theorem map_eq_of_mapM {f : α → Except ε β} {undo : β → α} {items : List α} {values : List β}
    (hundo : ∀ a ∈ items, ∀ b, f a = .ok b → undo b = a) (h : items.mapM f = .ok values) :
    values.map undo = items :=
  (map_eq_map_of_mapM hundo h).trans (List.map_id' items)

/-- Steps that all have a value have the same values in another order. -/
theorem exists_mapM_perm {f : α → Except ε β} {items items' : List α}
    (h : items.Perm items') : ∀ {values : List β}, items.mapM f = .ok values →
      ∃ values', items'.mapM f = .ok values' ∧ values.Perm values' := by
  induction h with
  | nil => exact fun hvalues => ⟨_, hvalues, .refl _⟩
  | cons a _ ih =>
    intro values hvalues
    rw [List.mapM_cons] at hvalues
    obtain ⟨b, hb, hvalues⟩ := bind_eq_ok_iff.1 hvalues
    obtain ⟨rest, hrest, hvalues⟩ := bind_eq_ok_iff.1 hvalues
    cases hvalues
    obtain ⟨rest', hrest', hperm⟩ := ih hrest
    exact ⟨b :: rest', by rw [List.mapM_cons, hb, ok_bind, hrest', ok_bind, pure_eq_ok],
      hperm.cons b⟩
  | swap a b items =>
    intro values hvalues
    rw [List.mapM_cons, List.mapM_cons] at hvalues
    obtain ⟨y, hy, hvalues⟩ := bind_eq_ok_iff.1 hvalues
    obtain ⟨others, hothers, hvalues⟩ := bind_eq_ok_iff.1 hvalues
    obtain ⟨x, hx, hothers⟩ := bind_eq_ok_iff.1 hothers
    obtain ⟨rest, hrest, hothers⟩ := bind_eq_ok_iff.1 hothers
    cases hothers
    cases hvalues
    refine ⟨x :: y :: rest, ?_, .swap x y rest⟩
    rw [List.mapM_cons, List.mapM_cons, hx, ok_bind, hy, ok_bind, hrest]
    rfl
  | trans _ _ ih ih' =>
    intro values hvalues
    obtain ⟨between, hbetween, hperm⟩ := ih hvalues
    obtain ⟨values', hvalues', hperm'⟩ := ih' hbetween
    exact ⟨values', hvalues', hperm.trans hperm'⟩

end ArchiveCensus.Outcome
