/-!
# Lists and results

What the proofs need of lists and results in general. Nothing here is about the client.
-/

namespace TemplateClient

/-- A filter that lets one entry pass. -/
theorem List.filter_eq_of_unique {α : Type} {p : α → Bool} {l : List α} {k : Nat}
    (unique : ∀ i a, l[i]? = some a → (p a = true ↔ i = k)) : l.filter p = l[k]?.toList := by
  induction l generalizing k with
  | nil => rfl
  | cons a l ih =>
    have hhead := unique 0 a rfl
    cases k with
    | zero =>
      have htail : l.filter p = [] := by
        refine List.filter_eq_nil_iff.mpr fun b hb => ?_
        obtain ⟨i, hi⟩ := List.mem_iff_getElem?.mp hb
        rw [unique (i + 1) b hi]
        exact Nat.succ_ne_zero i
      rw [List.filter_cons_of_pos (hhead.mpr rfl), htail]
      rfl
    | succ k =>
      have hskip : ¬ p a = true := fun h => absurd (hhead.mp h) (by omega)
      have hrest : ∀ i b, l[i]? = some b → (p b = true ↔ i = k) := by
        intro i b hb
        rw [unique (i + 1) b hb, Nat.succ_inj]
      rw [List.filter_cons_of_neg hskip, ih hrest]
      rfl

/-- A list of one entry has no two of them. -/
theorem List.singleton_ne_append_cons_cons {α : Type} {a b c : α} {front back : List α} :
    [a] ≠ front ++ b :: c :: back := by
  intro h
  have hlength := congrArg List.length h
  simp only [List.length_append, List.length_cons, List.length_nil] at hlength
  omega

theorem Option.getD_eq_self_iff {α : Type} {new : Option α} {old : α} :
    new.getD old = old ↔ ∀ a ∈ new, a = old := by
  cases new with
  | none => exact iff_of_true rfl nofun
  | some a => simp

section Results

variable {ε α β : Type} {x : Except ε α} {f : α → Except ε β}

/-- A step behind another succeeds if both do. -/
theorem Except.bind_eq_ok_iff {b : β} : x >>= f = .ok b ↔ ∃ a, x = .ok a ∧ f a = .ok b := by
  cases x <;> simp [bind, Except.bind]

/-- Two steps fail if the first does, or else the second. -/
theorem Except.bind_eq_error_iff {e : ε} :
    x >>= f = .error e ↔ x = .error e ∨ ∃ a, x = .ok a ∧ f a = .error e := by
  cases x with
  | error => simp [bind, Except.bind]
  | ok a => simp [bind, Except.bind]

end Results

end TemplateClient
