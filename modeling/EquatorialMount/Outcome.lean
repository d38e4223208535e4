/-!
# Outcomes

An operation that changes a state may fail after it has changed it, so its answer and the state it leaves behind come
side by side.
-/

namespace EquatorialMount

/-- What a call leaves behind: its answer or why it failed, and the state in either case. -/
abbrev Outcome (ε σ β : Type) := Except ε β × σ

/-- An answer that comes after another one is there only if both are. -/
theorem exists_of_bind_eq_ok {ε β γ : Type} {x : Except ε β} {f : β → Except ε γ} {r : γ} (h : x >>= f = .ok r) :
    ∃ a, x = .ok a ∧ f a = .ok r := by
  cases x with
  | error e => cases h
  | ok a => exact ⟨a, rfl, h⟩

end EquatorialMount
