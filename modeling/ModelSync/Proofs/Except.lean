/-! Computations that may fail. A sequence succeeds if all of its parts do, and otherwise fails
with the failure of the first part that does not. -/
namespace ModelSync.Except

variable {ε β γ : Type} {first : Except ε β} {failure : ε}

theorem exists_of_bind_ok {rest : β → Except ε γ} {result : γ}
    (done : first >>= rest = .ok result) :
    ∃ value, first = .ok value ∧ rest value = .ok result := by
  cases first with
  | error fault => cases done
  | ok value => exact ⟨value, rfl, done⟩

theorem bind_eq_ok_iff {rest : β → Except ε γ} {result : γ} :
    first >>= rest = .ok result ↔ ∃ value, first = .ok value ∧ rest value = .ok result := by
  refine ⟨exists_of_bind_ok, ?_⟩
  rintro ⟨value, rfl, done⟩
  exact done

theorem bind_eq_error_iff {rest : β → Except ε γ} :
    first >>= rest = .error failure ↔
      first = .error failure ∨ ∃ value, first = .ok value ∧ rest value = .error failure := by
  cases first with
  | error fault => simp [Bind.bind, Except.bind]
  | ok value => simp [Bind.bind, Except.bind]

theorem map_eq_ok_iff {change : β → γ} {result : γ} :
    change <$> first = .ok result ↔ ∃ value, first = .ok value ∧ change value = result := by
  cases first <;> simp [Functor.map, Except.map]

theorem map_eq_error_iff {change : β → γ} :
    change <$> first = .error failure ↔ first = .error failure := by
  cases first <;> simp [Functor.map, Except.map]

/-- A computation that does not fail succeeds. -/
theorem exists_ok_iff : (∃ value, first = .ok value) ↔ ∀ failure, first ≠ .error failure := by
  cases first <;> simp

end ModelSync.Except
