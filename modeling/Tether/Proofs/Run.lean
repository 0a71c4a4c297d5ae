import Mathlib.Logic.Relation

namespace Tether

/-! # Runs

A system moves by steps, and a run is any number of steps one after another. What holds at the start and is kept by
every step holds after every run (`Run.invariant`). A system that is told what to do may keep a log of it, which then
has an entry for everything that it was told (`Run.map_log`).
-/

/-- Any number of steps. -/
abbrev Run {σ : Type*} (step : σ → σ → Prop) : σ → σ → Prop := Relation.ReflTransGen step

/-- What every step keeps is kept by every run. -/
theorem Run.invariant {σ : Type*} {step : σ → σ → Prop} {inv : σ → Prop}
    (hstep : ∀ s s', step s s' → inv s → inv s') {s s' : σ} (h : Run step s s') (hs : inv s) : inv s' := by
  induction h with
  | refl => exact hs
  | tail _ hlast ih => exact hstep _ _ hlast ih

/-- A log to which every step adds what it was told has all of it, in order. -/
theorem Run.map_log {σ α β : Type*} {next : σ → α → σ} {log : σ → List β} {told : β → α}
    (hnext : ∀ s a, (log (next s a)).map told = (log s).map told ++ [a]) (s : σ) (all : List α) :
    (log (all.foldl next s)).map told = (log s).map told ++ all := by
  induction all generalizing s with
  | nil => exact (List.append_nil _).symm
  | cons a rest ih => rw [List.foldl_cons, ih, hnext, List.append_assoc, List.singleton_append]

end Tether
