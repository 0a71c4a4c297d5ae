import Tether.Network.Basic

namespace Tether

/-! # Limits

Work that must end within a limit ends as it would without one, or with the limit (`Outcome.ends_within`).
-/

namespace Outcome

variable {α : Type}

/-- Work that ends is told as it ended, and what would wait forever ends with the limit. -/
inductive Ends (limit : Option Duration) : Except Halt α → Outcome α → Prop where
  | value (a : α) : Ends limit (.ok a) (.success a)
  | failure (e : StoreError) : Ends limit (.error (.failed e)) (.failed (.store e))
  | timeout {d : Duration} (hlimit : limit = some d) : Ends limit (.error .waiting) (.failed (.timeout d))
  | waiting (hlimit : limit = none) : Ends limit (.error .waiting) .waiting

theorem ends_within (limit : Option Duration) (result : Except Halt α) : Ends limit result (within limit result) := by
  match result with
  | .ok a => exact .value a
  | .error (.failed e) => exact .failure e
  | .error .waiting =>
    cases limit with
    | none => exact .waiting rfl
    | some d => exact .timeout rfl

/-- Work that gives no value ends in the same way whatever its value would have been. -/
theorem within_error (limit : Option Duration) (halt : Halt) :
    (∃ e, ∀ α : Type, within limit (.error halt : Except Halt α) = .failed e) ∨
      ∀ α : Type, within limit (.error halt : Except Halt α) = .waiting := by
  cases halt with
  | failed e => exact .inl ⟨.store e, fun _ => rfl⟩
  | waiting =>
    cases limit with
    | none => exact .inr fun _ => rfl
    | some d => exact .inl ⟨.timeout d, fun _ => rfl⟩

end Outcome

end Tether
