import Tether.Handle.Slot

namespace Tether

/-! # What a slot holds

A slot holds a generation when its connection is of that generation (`Slot.holds_iff`), and discarding a generation
empties it then and only then (`Slot.current_discard`).
-/

namespace Slot

variable {C : Type} {s : Slot C} {g : UInt64}

theorem current_eq_some_iff {p : C × UInt64} :
    s.current = some p ↔ s.connection = some p.1 ∧ s.generation = p.2 := by
  rcases p with ⟨c, g⟩
  cases h : s.connection <;> simp [current, h]

theorem holds_iff : s.holds g = true ↔ ∃ c, s.current = some (c, g) := by
  simp only [holds, Bool.and_eq_true, decide_eq_true_eq, current_eq_some_iff]
  constructor
  · rintro ⟨hg, hc⟩
    obtain ⟨c, hc⟩ := Option.isSome_iff_exists.1 hc
    exact ⟨c, hc, hg⟩
  · rintro ⟨c, hc, hg⟩
    exact ⟨hg, Option.isSome_iff_exists.2 ⟨c, hc⟩⟩

theorem current_discard : (s.discard g).current = if s.holds g then none else s.current := by
  unfold discard
  split <;> rfl

/-- Discarding leaves connections of other generations as they are. -/
theorem current_discard_eq_some_iff {p : C × UInt64} :
    (s.discard g).current = some p ↔ s.current = some p ∧ g ≠ p.2 := by
  rw [current_discard]
  cases hg : s.holds g with
  | true =>
    obtain ⟨c, hc⟩ := holds_iff.1 hg
    rw [hc]
    constructor
    · intro hno
      cases hno
    · rintro ⟨heq, hne⟩
      rw [← Option.some.inj heq] at hne
      exact absurd rfl hne
  | false =>
    constructor
    · intro hp
      refine ⟨hp, ?_⟩
      intro heq
      rw [holds_iff.2 ⟨p.1, heq ▸ hp⟩] at hg
      cases hg
    · exact fun hp => hp.1

theorem holds_discard_iff {g' : UInt64} : (s.discard g).holds g' = true ↔ s.holds g' = true ∧ g ≠ g' := by
  simp only [holds_iff, current_discard_eq_some_iff]
  constructor
  · rintro ⟨c, hc, hne⟩
    exact ⟨⟨c, hc⟩, hne⟩
  · rintro ⟨⟨c, hc⟩, hne⟩
    exact ⟨c, hc, hne⟩

end Slot

end Tether
