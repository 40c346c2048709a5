/-!
# Failing and searching

A computation that can fail gives a value just if each of its steps gives one. A search gives what it looks for
where nothing else fits.
-/

namespace CompilerDriver

universe u

section Except

variable {ε α β : Type} {x : Except ε α} {b : β}

theorem bind_eq_ok_iff {f : α → Except ε β} : x >>= f = .ok b ↔ ∃ a, x = .ok a ∧ f a = .ok b := by
  cases x <;> simp [bind, Except.bind]

theorem pure_eq_ok_iff {a : β} : (pure a : Except ε β) = .ok b ↔ a = b := by
  simp [pure, Except.pure]

theorem throw_ne_ok {e : ε} : (throw e : Except ε β) ≠ .ok b :=
  nofun

theorem throw_bind {f : α → Except ε β} {e : ε} : (throw e : Except ε α) >>= f = throw e :=
  rfl

theorem map_eq_ok_iff {f : α → β} : f <$> x = .ok b ↔ ∃ a, x = .ok a ∧ f a = b := by
  cases x <;> simp [Functor.map, Except.map]

theorem mapM_eq_ok_some_iff {f : α → Except ε β} {o : Option α} :
    o.mapM f = .ok (some b) ↔ ∃ a, o = some a ∧ f a = .ok b := by
  cases o with
  | none => simp [pure, Except.pure]
  | some a =>
    cases h : f a <;> simp [h, Functor.map, Except.map]

/-- Where a step undoes a function, it is undone in an optional value as well. -/
theorem mapM_eq_ok_iff_of_inverse {f : α → Except ε β} {g : β → α} (h : ∀ a b, f a = .ok b ↔ a = g b)
    {o : Option α} {t : Option β} : o.mapM f = .ok t ↔ o = t.map g := by
  cases t with
  | none =>
    cases o with
    | none => simp [pure, Except.pure]
    | some a => cases hf : f a <;> simp [hf, Functor.map, Except.map]
  | some b => simp [mapM_eq_ok_some_iff, h]

end Except

theorem find?_of_unique {α : Type u} {p : α → Bool} {l : List α} {a : α} (ha : a ∈ l) (hp : p a = true)
    (hUnique : ∀ b ∈ l, p b = true → b = a) : l.find? p = some a := by
  cases hFound : l.find? p with
  | none => exact absurd hp (List.find?_eq_none.1 hFound a ha)
  | some b => rw [hUnique b (List.mem_of_find?_eq_some hFound) (List.find?_some hFound)]

end CompilerDriver
