import Tether.Text.Split

namespace Tether

/-! # The first and the last separator

A text is cut at its first separator where nothing before it is one, and at its last where nothing after it is
one (`Split.atFirst?_append`, `Split.atLast?_eq_some_iff`). Cut at all of them, it has the parts of both sides of any
(`Split.parts_append`).
-/

namespace Split

variable {sep : Char} {cs before after : List Char}

theorem atFirst?_append (h : sep ∉ before) : atFirst? sep (before ++ sep :: after) = some (before, after) := by
  induction before with
  | nil => simp [atFirst?]
  | cons c r ih =>
    have hc : c ≠ sep := fun hc => h (by simp [hc])
    have hr : sep ∉ r := fun hm => h (List.mem_cons_of_mem c hm)
    simp [atFirst?, hc, ih hr]

theorem notMem_of_atFirst?_eq_some (h : atFirst? sep cs = some (before, after)) : sep ∉ before := by
  induction cs generalizing before with
  | nil => simp [atFirst?] at h
  | cons c r ih =>
    unfold atFirst? at h
    split at h
    · cases h
      exact List.not_mem_nil
    · next hc =>
      obtain ⟨p, hp, he⟩ := Option.map_eq_some_iff.1 h
      cases he
      simp [ih hp, Ne.symm hc]

/-- The first separator stands in one place. -/
theorem append_cons_inj {before' after' : List Char} (h : sep ∉ before) (h' : sep ∉ before')
    (heq : before ++ sep :: after = before' ++ sep :: after') : before = before' ∧ after = after' := by
  have hcut : atFirst? sep (before ++ sep :: after) = some (before, after) := atFirst?_append h
  rw [heq, atFirst?_append h'] at hcut
  cases hcut
  exact ⟨rfl, rfl⟩

theorem atLast?_eq_none_iff : atLast? sep cs = none ↔ sep ∉ cs := by
  induction cs with
  | nil => simp [atLast?]
  | cons c r ih =>
    cases hr : atLast? sep r with
    | some p =>
      -- there is one further on
      have hm : sep ∈ r := by
        have hn : ¬ sep ∉ r := fun hn => by simp [ih.2 hn] at hr
        exact Decidable.not_not.1 hn
      simp [atLast?, hr, hm]
    | none =>
      have hn : sep ∉ r := ih.1 hr
      simp [atLast?, hr, hn, eq_comm]

theorem atLast?_append (h : sep ∉ after) : atLast? sep (before ++ sep :: after) = some (before, after) := by
  induction before with
  | nil => simp [atLast?, atLast?_eq_none_iff.2 h]
  | cons c r ih => simp [atLast?, ih]

theorem notMem_of_atLast?_eq_some (h : atLast? sep cs = some (before, after)) : sep ∉ after := by
  induction cs generalizing before with
  | nil => simp [atLast?] at h
  | cons c r ih =>
    unfold atLast? at h
    split at h
    · next hr =>
      cases h
      exact ih hr
    · next hr =>
      split at h
      · cases h
        exact atLast?_eq_none_iff.1 hr
      · cases h

theorem atLast?_eq_some_iff : atLast? sep cs = some (before, after) ↔ cs = before ++ sep :: after ∧ sep ∉ after := by
  constructor
  · intro h
    exact ⟨atLast?_eq_some h, notMem_of_atLast?_eq_some h⟩
  · rintro ⟨rfl, h⟩
    exact atLast?_append h

/-! ### All parts -/

theorem parts_ne_nil : parts sep cs ≠ [] := by
  cases cs with
  | nil => exact List.cons_ne_nil _ _
  | cons c r =>
    unfold parts
    split
    · exact List.cons_ne_nil _ _
    · split <;> exact List.cons_ne_nil _ _

theorem parts_of_notMem (h : sep ∉ cs) : parts sep cs = [cs] := by
  induction cs with
  | nil => rfl
  | cons c r ih =>
    have hc : c ≠ sep := fun hc => h (by simp [hc])
    have hr : sep ∉ r := fun hm => h (List.mem_cons_of_mem c hm)
    simp [parts, hc, ih hr]

/-- No part reaches over a separator. -/
theorem parts_append : parts sep (before ++ sep :: after) = parts sep before ++ parts sep after := by
  induction before with
  | nil => simp [parts]
  | cons c r ih =>
    by_cases hc : c = sep
    · simp [parts, hc, ih]
    · obtain ⟨first, others, hr⟩ := List.exists_cons_of_ne_nil (parts_ne_nil : parts sep r ≠ [])
      simp [parts, hc, ih, hr]

end Split

end Tether
