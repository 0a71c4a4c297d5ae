import Tether.Handle.Slot

namespace Tether

/-! # The history of a slot

Connections are installed in a slot, and callers that have lost one reset it. A connection stands from its install to
the next one or to a reset of its generation (`SharedSlot.Standing`): what was installed last stands alone
(`SharedSlot.standing_concat_installed`), and a reset leaves connections of other generations standing
(`SharedSlot.standing_concat_reset`).
-/

namespace SharedSlot

/-- A reset of the slot: the connection that the command ran on, what the caller was told, and what was taken away. -/
structure Reset (ι C : Type) where
  caller : ι
  ranOn : C × UInt64
  told : Bool
  removed : Option (C × UInt64)

/-- What has happened to the slot. -/
inductive Change (ι C : Type) where
  | installed (p : C × UInt64)
  | reset (r : Reset ι C)

variable {ι C : Type}

namespace Change

/-- The connection that was installed, if one was. -/
def installed? : Change ι C → Option (C × UInt64)
  | .installed p => some p
  | .reset _ => none

/-- The reset, if it was one. -/
def reset? : Change ι C → Option (Reset ι C)
  | .installed _ => none
  | .reset r => some r

end Change

/-- The connections that were installed, in order. -/
def installs (h : List (Change ι C)) : List (C × UInt64) := h.filterMap Change.installed?

/-- The resets, in order. -/
def resets (h : List (Change ι C)) : List (Reset ι C) := h.filterMap Change.reset?

/-- The connection is the last that was installed, and no reset of its generation came after. -/
def Standing (h : List (Change ι C)) (p : C × UInt64) : Prop :=
  ∃ before after, h = before ++ .installed p :: after ∧ ∀ x ∈ after, ∃ r, x = .reset r ∧ r.ranOn.2 ≠ p.2

@[simp] theorem installs_append (h h' : List (Change ι C)) : installs (h ++ h') = installs h ++ installs h' :=
  List.filterMap_append

@[simp] theorem resets_append (h h' : List (Change ι C)) : resets (h ++ h') = resets h ++ resets h' :=
  List.filterMap_append

@[simp] theorem installs_installed (p : C × UInt64) : installs [(.installed p : Change ι C)] = [p] := rfl

@[simp] theorem installs_reset (r : Reset ι C) : installs [.reset r] = [] := rfl

@[simp] theorem resets_installed (p : C × UInt64) : resets [(.installed p : Change ι C)] = [] := rfl

@[simp] theorem resets_reset (r : Reset ι C) : resets [.reset r] = [r] := rfl

theorem mem_installs_of_standing {h : List (Change ι C)} {p : C × UInt64} (hp : Standing h p) : p ∈ installs h := by
  obtain ⟨before, after, rfl, _⟩ := hp
  exact List.mem_filterMap.2 ⟨.installed p, by simp, rfl⟩

/-- What was installed last stands alone. -/
theorem standing_concat_installed {h : List (Change ι C)} {p q : C × UInt64} :
    Standing (h ++ [.installed q]) p ↔ p = q := by
  constructor
  · rintro ⟨before, after, heq, hafter⟩
    rcases List.eq_nil_or_concat after with rfl | ⟨init, x, rfl⟩
    · have hlast := (List.append_inj' heq rfl).2
      simpa using hlast.symm
    · -- nothing was installed after a connection that stands
      rw [List.concat_eq_append, ← List.cons_append, ← List.append_assoc] at heq
      have hlast := (List.append_inj' heq rfl).2
      obtain ⟨r, hr, _⟩ := hafter x (by simp)
      simp [hr] at hlast
  · rintro rfl
    exact ⟨h, [], rfl, by simp⟩

/-- A reset leaves connections of other generations standing. -/
theorem standing_concat_reset {h : List (Change ι C)} {r : Reset ι C} {p : C × UInt64} :
    Standing (h ++ [.reset r]) p ↔ Standing h p ∧ r.ranOn.2 ≠ p.2 := by
  constructor
  · rintro ⟨before, after, heq, hafter⟩
    rcases List.eq_nil_or_concat after with rfl | ⟨init, x, rfl⟩
    · have hlast := (List.append_inj' heq rfl).2
      simp at hlast
    · rw [List.concat_eq_append, ← List.cons_append, ← List.append_assoc] at heq
      obtain ⟨rfl, hlast⟩ := List.append_inj' heq rfl
      obtain ⟨r', hr', hne⟩ := hafter x (by simp)
      rw [hr', List.cons.injEq, Change.reset.injEq] at hlast
      rw [hlast.1]
      exact ⟨⟨before, init, rfl, fun y hy => hafter y (by simp [hy])⟩, hne⟩
  · rintro ⟨⟨before, after, rfl, hafter⟩, hne⟩
    refine ⟨before, after ++ [.reset r], by simp, ?_⟩
    intro x hx
    rcases List.mem_append.1 hx with hx | hx
    · exact hafter x hx
    · exact ⟨r, List.mem_singleton.1 hx, hne⟩

end SharedSlot

end Tether
