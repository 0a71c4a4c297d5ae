import Mathlib.Logic.Function.Basic
import Tether.Handle.Live
import Tether.Proofs.Handle.History
import Tether.Proofs.Handle.Slot
import Tether.Proofs.Run

namespace Tether

/-! # Callers of one handle

Any number of callers run commands on one live handle at the same time. A caller takes the connection with its
generation, or opens one while the slot stays locked; its command ends in any way; and when the connection was lost
it resets the slot by the generation that it took. Between these any other caller may do anything. We show:

* `inv_of_reachable`: the slot holds the last connection that was opened until a reset of its generation, and it is
  empty while a caller opens one;
* `run_query`: a command that nobody comes between leaves the slot as `LiveHandle.query` does.
-/

namespace SharedSlot

variable {ι C : Type}

/-! ## Callers -/

/-- How far a caller is with its command. -/
inductive Stage (C : Type) where
  | idle
  /-- It opens a connection and keeps the slot locked. -/
  | opening
  /-- Its command runs on a connection. -/
  | running (p : C × UInt64)
  /-- Its command has lost the connection, and the slot is not reset yet. -/
  | lost (p : C × UInt64)

variable [DecidableEq ι]

/-- A slot with its callers, and what has happened to it. -/
structure St (ι C : Type) where
  slot : Slot C := {}
  /-- The caller that keeps the slot locked over an attempt to connect. -/
  opener : Option ι := none
  stage : ι → Stage C := fun _ => .idle
  history : List (Change ι C) := []

/-- The failure says that the connection is gone. -/
def isLoss : Except OperationError Reply → Bool
  | .error (.store e) => e.isDisconnect
  | _ => false

namespace St

/-- A caller gets to a stage. -/
def goes (s : St ι C) (i : ι) (stage : Stage C) : St ι C := { s with stage := Function.update s.stage i stage }

/-- A caller finds no connection and begins to open one. -/
def locked (s : St ι C) (i : ι) : St ι C := { s.goes i .opening with opener := some i }

/-- An attempt to connect ends, and the lock with it. -/
def opened (s : St ι C) (i : ι) : Except OperationError C → St ι C
  | .ok c =>
    let slot := s.slot.install c
    { s.goes i (.running (c, slot.generation)) with
      slot
      opener := none
      history := s.history ++ [.installed (c, slot.generation)] }
  | .error _ => { s.goes i .idle with opener := none }

/-- A command ends. -/
def ended (s : St ι C) (i : ι) (p : C × UInt64) (result : Except OperationError Reply) : St ι C :=
  s.goes i (if isLoss result then .lost p else .idle)

/-- A caller that has lost its connection resets the slot. -/
def resetBy (s : St ι C) (i : ι) (p : C × UInt64) : St ι C :=
  let slot := s.slot.discard p.2
  let removed := if slot.current.isNone then s.slot.current else none
  { s.goes i .idle with slot, history := s.history ++ [.reset ⟨i, p, s.slot.holds p.2, removed⟩] }

/-- A caller gives up, wherever it is, and lets go of the lock. -/
def left (s : St ι C) (i : ι) : St ι C :=
  { s.goes i .idle with opener := if s.opener = some i then none else s.opener }

end St

/-- A step of some caller. Nobody touches the slot while a caller keeps it locked. -/
inductive Step : St ι C → St ι C → Prop where
  | take (s : St ι C) (i : ι) (p : C × UInt64) (hi : s.stage i = .idle) (hfree : s.opener = none)
      (hp : s.slot.current = some p) : Step s (s.goes i (.running p))
  | lock (s : St ι C) (i : ι) (hi : s.stage i = .idle) (hfree : s.opener = none)
      (hempty : s.slot.current = none) : Step s (s.locked i)
  | opened (s : St ι C) (i : ι) (result : Except OperationError C) (hi : s.stage i = .opening) :
      Step s (s.opened i result)
  | ended (s : St ι C) (i : ι) (p : C × UInt64) (result : Except OperationError Reply)
      (hi : s.stage i = .running p) : Step s (s.ended i p result)
  | reset (s : St ι C) (i : ι) (p : C × UInt64) (hi : s.stage i = .lost p) (hfree : s.opener = none) :
      Step s (s.resetBy i p)
  | leave (s : St ι C) (i : ι) : Step s (s.left i)

/-- What any steps of any callers lead to, from an empty slot that nobody uses. -/
def Reachable (s : St ι C) : Prop := Run Step {} s

/-! ## What a step does -/

/-- The connection that a caller has in hand. -/
def Stage.inHand : Stage C → Option (C × UInt64)
  | .running p => some p
  | .lost p => some p
  | _ => none

@[simp] theorem St.stage_goes (s : St ι C) (i : ι) (stage : Stage C) :
    (s.goes i stage).stage = Function.update s.stage i stage := rfl

omit [DecidableEq ι] in
/-- What a reset takes away is what the slot holds, if it is of the generation. -/
theorem St.removed_eq (s : St ι C) (g : UInt64) :
    (if (s.slot.discard g).current.isNone then s.slot.current else none) =
      if s.slot.holds g then s.slot.current else none := by
  rw [Slot.current_discard]
  cases s.slot.holds g <;> cases s.slot.current <;> rfl

/-- A step leaves the slot alone, or a caller that opens a connection installs it, or a caller that has lost one
resets the slot. -/
theorem step_slot {s s' : St ι C} (h : Step s s') :
    (s'.slot = s.slot ∧ s'.history = s.history) ∨
    (∃ i c, s.stage i = .opening ∧ s'.opener = none ∧ s'.slot = s.slot.install c ∧
      s'.history = s.history ++ [.installed (c, s.slot.generation + 1)]) ∨
    ∃ r : Reset ι C, s.stage r.caller = .lost r.ranOn ∧ s'.slot = s.slot.discard r.ranOn.2 ∧
      s'.history = s.history ++ [.reset r] ∧ r.told = s.slot.holds r.ranOn.2 ∧
      r.removed = if r.told then s.slot.current else none := by
  cases h with
  | opened i result hi =>
    cases result with
    | ok c => exact Or.inr (Or.inl ⟨i, c, hi, rfl, rfl, rfl⟩)
    | error e => exact Or.inl ⟨rfl, rfl⟩
  | reset i p hi hfree => exact Or.inr (Or.inr ⟨_, hi, rfl, rfl, rfl, s.removed_eq p.2⟩)
  | _ => exact Or.inl ⟨rfl, rfl⟩

/-- A step changes the stage of one caller, who gets in hand what it had before, or what the slot holds, or what it
has just opened. -/
theorem step_stage {s s' : St ι C} (h : Step s s') :
    ∃ i stage, s'.stage = Function.update s.stage i stage ∧ ∀ p, stage.inHand = some p →
      (s.stage i).inHand = some p ∨ s.slot.current = some p ∨ s'.history = s.history ++ [.installed p] := by
  cases h with
  | take i p hi hfree hp =>
    refine ⟨i, .running p, rfl, ?_⟩
    intro q hq
    rw [← Option.some.inj hq]
    exact Or.inr (Or.inl hp)
  | opened i result hi =>
    cases result with
    | ok c =>
      -- the caller that opens a connection runs its command on it
      refine ⟨i, .running (c, (s.slot.install c).generation), rfl, ?_⟩
      intro q hq
      rw [← Option.some.inj hq]
      exact Or.inr (Or.inr rfl)
    | error e => exact ⟨i, .idle, rfl, fun q hq => by cases hq⟩
  | ended i p result hi =>
    refine ⟨i, if isLoss result then .lost p else .idle, rfl, ?_⟩
    intro q hq
    split at hq
    · -- a lost connection stays in hand for the reset
      rw [hi]
      exact Or.inl hq
    · cases hq
  | lock i hi hfree hempty => exact ⟨i, .opening, rfl, fun q hq => by cases hq⟩
  | reset i p hi hfree => exact ⟨i, .idle, rfl, fun q hq => by cases hq⟩
  | leave i => exact ⟨i, .idle, rfl, fun q hq => by cases hq⟩

/-- A caller locks the slot when it begins to open a connection and unlocks it when it ends to, and no one else does
either. -/
theorem step_opener {s s' : St ι C} (h : Step s s') (ho : ∀ i, s.stage i = .opening ↔ s.opener = some i) :
    ∃ i stage, s'.stage = Function.update s.stage i stage ∧
      ((stage = .opening ∧ s.opener = none ∧ s'.opener = some i ∧ s.slot.current = none ∧ s'.slot = s.slot) ∨
        (stage ≠ .opening ∧ s.opener = some i ∧ s'.opener = none) ∨
        (stage ≠ .opening ∧ s.opener ≠ some i ∧ s'.opener = s.opener)) := by
  have hnot : ∀ {i : ι} {stage : Stage C}, s.stage i = stage → stage ≠ .opening → s.opener ≠ some i := by
    intro i stage hi hne hopener
    rw [← hi] at hne
    exact hne ((ho i).2 hopener)
  cases h with
  | take i p hi hfree hp => exact ⟨i, .running p, rfl, Or.inr (Or.inr ⟨by simp, hnot hi (by simp), rfl⟩)⟩
  | lock i hi hfree hempty => exact ⟨i, .opening, rfl, Or.inl ⟨rfl, hfree, rfl, hempty, rfl⟩⟩
  | opened i result hi =>
    have hopener : s.opener = some i := (ho i).1 hi
    cases result with
    | ok c => exact ⟨i, .running _, rfl, Or.inr (Or.inl ⟨by simp, hopener, rfl⟩)⟩
    | error e => exact ⟨i, .idle, rfl, Or.inr (Or.inl ⟨by simp, hopener, rfl⟩)⟩
  | ended i p result hi =>
    have hstage : (if isLoss result then Stage.lost p else .idle) ≠ .opening := by split <;> simp
    exact ⟨i, _, rfl, Or.inr (Or.inr ⟨hstage, hnot hi (by simp), rfl⟩)⟩
  | reset i p hi hfree => exact ⟨i, .idle, rfl, Or.inr (Or.inr ⟨by simp, hnot hi (by simp), rfl⟩)⟩
  | leave i =>
    -- a caller that gives up lets go of the lock if it had it
    by_cases hopener : s.opener = some i
    · exact ⟨i, .idle, rfl, Or.inr (Or.inl ⟨by simp, hopener, by simp [St.left, hopener]⟩)⟩
    · exact ⟨i, .idle, rfl, Or.inr (Or.inr ⟨by simp, hopener, by simp [St.left, hopener]⟩)⟩

/-! ## The invariant -/

/-- What holds between any two steps. -/
structure Inv (s : St ι C) : Prop where
  current : ∀ p, s.slot.current = some p ↔ Standing s.history p
  generation : s.slot.generation = UInt64.ofNat (installs s.history).length
  numbered : ∀ k p, (installs s.history)[k]? = some p → p.2 = UInt64.ofNat (k + 1)
  inHand : ∀ i p, (s.stage i).inHand = some p → p ∈ installs s.history
  opener : ∀ i, s.stage i = .opening ↔ s.opener = some i
  empty : ∀ i, s.opener = some i → s.slot.current = none
  ranOn : ∀ r ∈ resets s.history, r.ranOn ∈ installs s.history

omit [DecidableEq ι] in
theorem inv_init : Inv ({} : St ι C) where
  current := by
    intro p
    constructor
    · intro h
      cases h
    · rintro ⟨before, after, heq, _⟩
      simp at heq
  generation := rfl
  numbered := by simp [installs]
  inHand := by simp [Stage.inHand]
  opener := by simp
  empty := by simp
  ranOn := by simp [resets]

/-- Connections are only added. -/
theorem prefix_installs {s s' : St ι C} (h : Step s s') : installs s.history <+: installs s'.history := by
  rcases step_slot h with ⟨_, hh⟩ | ⟨_, c, _, _, _, hh⟩ | ⟨r, _, _, hh, _⟩
  · simp [hh]
  · rw [hh, installs_append]
    exact List.prefix_append _ _
  · simp [hh]

theorem inv_step (s s' : St ι C) (h : Step s s') (hs : Inv s) : Inv s' where
  current := by
    intro p
    rcases step_slot h with ⟨hslot, hh⟩ | ⟨_, c, _, _, hslot, hh⟩ | ⟨r, _, hslot, hh, _⟩
    · rw [hslot, hh]
      exact hs.current p
    · -- the new connection stands alone
      rw [hslot, hh, standing_concat_installed, Slot.current_install, Option.some.injEq, eq_comm]
    · -- what stands is taken away if it is of the generation
      rw [hslot, hh, standing_concat_reset, ← hs.current, Slot.current_discard_eq_some_iff]
  generation := by
    rcases step_slot h with ⟨hslot, hh⟩ | ⟨_, c, _, _, hslot, hh⟩ | ⟨r, _, hslot, hh, _⟩
    · rw [hslot, hh, hs.generation]
    · rw [hslot, hh, Slot.install, hs.generation]
      simp
    · rw [hslot, hh, Slot.generation_discard, hs.generation]
      simp
  numbered := by
    intro k p hp
    rcases step_slot h with ⟨_, hh⟩ | ⟨_, c, _, _, _, hh⟩ | ⟨r, _, _, hh, _⟩
    · rw [hh] at hp
      exact hs.numbered k p hp
    · rw [hh, installs_append, installs_installed] at hp
      rw [List.getElem?_append] at hp
      split at hp
      · exact hs.numbered k p hp
      · next hk =>
        -- the connection that was just opened
        obtain ⟨hlt, hlast⟩ := List.getElem?_eq_some_iff.1 hp
        rw [List.length_singleton] at hlt
        have heq : k = (installs s.history).length := by omega
        rw [List.getElem_singleton] at hlast
        rw [← hlast, heq, hs.generation]
        simp
    · rw [hh, installs_append, installs_reset, List.append_nil] at hp
      exact hs.numbered k p hp
  inHand := by
    intro j p hp
    obtain ⟨i, stage, hstage, hhand⟩ := step_stage h
    rw [hstage] at hp
    by_cases hij : j = i
    · -- the caller that moves
      subst hij
      rw [Function.update_self] at hp
      rcases hhand p hp with hp | hp | hh
      · exact (prefix_installs h).subset (hs.inHand j p hp)
      · exact (prefix_installs h).subset (mem_installs_of_standing ((hs.current p).1 hp))
      · simp [hh]
    · -- all others
      rw [Function.update_of_ne hij] at hp
      exact (prefix_installs h).subset (hs.inHand j p hp)
  opener := by
    intro j
    obtain ⟨i, stage, hstage, hcases⟩ := step_opener h hs.opener
    rw [hstage]
    by_cases hij : j = i
    · subst hij
      rw [Function.update_self]
      rcases hcases with ⟨rfl, _, hopener, _⟩ | ⟨hne, _, hopener⟩ | ⟨hne, hno, hopener⟩
      · simp [hopener]
      · simp [hopener, hne]
      · simp [hopener, hne, hno]
    · -- the others have no lock while this one takes it or has it
      rw [Function.update_of_ne hij, hs.opener j]
      rcases hcases with ⟨_, hold, hopener, _⟩ | ⟨_, hold, hopener⟩ | ⟨_, _, hopener⟩
      · simp [hold, hopener, Ne.symm hij]
      · simp [hold, hopener, Ne.symm hij]
      · rw [hopener]
  empty := by
    intro j hj
    obtain ⟨i, stage, _, ⟨_, _, _, hempty, hslot⟩ | ⟨_, _, hopener⟩ | ⟨_, _, hopener⟩⟩ := step_opener h hs.opener
    · rw [hslot]
      exact hempty
    · rw [hopener] at hj
      cases hj
    · -- the lock was there before, so nothing can have been installed since
      have hempty : s.slot.current = none := hs.empty j (hopener ▸ hj)
      rcases step_slot h with ⟨hslot, _⟩ | ⟨_, _, _, hfree, _, _⟩ | ⟨r, _, hslot, _, _⟩
      · rw [hslot]
        exact hempty
      · rw [hfree] at hj
        cases hj
      · rw [hslot, Slot.current_discard, hempty, ite_self]
  ranOn := by
    intro r hr
    have hkeep : ∀ r ∈ resets s.history, r.ranOn ∈ installs s'.history := fun r hr =>
      (prefix_installs h).subset (hs.ranOn r hr)
    rcases step_slot h with ⟨_, hh⟩ | ⟨_, c, _, _, _, hh⟩ | ⟨r', hlost, _, hh, _⟩
    · rw [hh] at hr
      exact hkeep r hr
    · rw [hh, resets_append, resets_installed, List.append_nil] at hr
      exact hkeep r hr
    · rw [hh, resets_append, resets_reset] at hr
      rcases List.mem_append.1 hr with hr | hr
      · exact hkeep r hr
      · -- what the command ran on was in the caller's hand
        rw [List.mem_singleton.1 hr]
        exact (prefix_installs h).subset (hs.inHand r'.caller r'.ranOn (by rw [hlost]; rfl))

theorem inv_of_reachable {s : St ι C} (h : Reachable s) : Inv s :=
  h.invariant inv_step inv_init

/-! ## One command at a time -/

/-- Two slots with a connection of one generation, or both without one. -/
def Alike (a b : Slot C) : Prop := a.generation = b.generation ∧ a.connection.isSome = b.connection.isSome

theorem alike_update (a : Slot C) (g : UInt64) (c : C) : Alike a (a.update g c) := by
  refine ⟨(Slot.generation_update a g c).symm, ?_⟩
  unfold Slot.update
  split
  · next h =>
    simp only [Slot.holds, Bool.and_eq_true] at h
    simp [h.2]
  · rfl

theorem alike_discard {a b : Slot C} (h : Alike a b) (g : UInt64) : Alike (a.discard g) (b.discard g) := by
  rcases h with ⟨hg, hc⟩
  have hholds : a.holds g = b.holds g := by rw [Slot.holds, Slot.holds, hg, hc]
  unfold Slot.discard
  rw [hholds]
  split
  · exact ⟨hg, rfl⟩
  · exact ⟨hg, hc⟩

/-- Only the loss of the connection empties the slot. -/
theorem slot_settle (h : LiveHandle C) (g : UInt64) (c : C) (result : Except OperationError Reply) :
    (h.settle g c (.finished result)).slot =
      if isLoss result then (h.slot.update g c).discard g else h.slot.update g c := by
  cases result with
  | ok reply => rfl
  | error e =>
    cases e with
    | store e =>
      cases hloss : e.isDisconnect <;> simp [LiveHandle.settle, isLoss, hloss]
    | _ => rfl

/-- A caller that runs a command on a connection, with nobody between, leaves the slot as `LiveHandle.settle` does. -/
theorem run_settle (h : LiveHandle C) (s : St ι C) (i : ι) (p : C × UInt64) (c : C) (outcome : Outcome Reply)
    (hslot : s.slot = h.slot) (hfree : s.opener = none) (hi : s.stage i = .running p) :
    ∃ s', Run Step s s' ∧ Alike s'.slot (h.settle p.2 c outcome).slot := by
  have hupdate : Alike s.slot (h.slot.update p.2 c) := hslot ▸ alike_update h.slot p.2 c
  cases outcome with
  | waiting => exact ⟨s, .refl, hupdate⟩
  | finished result =>
    have hend : Step s (s.ended i p result) := .ended s i p result hi
    rw [slot_settle]
    cases hloss : isLoss result with
    | false => exact ⟨_, .single hend, hupdate⟩
    | true =>
      have hreset : Step (s.ended i p result) ((s.ended i p result).resetBy i p) :=
        .reset _ i p (by simp [St.ended, hloss]) hfree
      exact ⟨_, (Relation.ReflTransGen.single hend).tail hreset, alike_discard hupdate p.2⟩

theorem query_of_acquire {σ : Type} {t : Transport C σ} {h h' : LiveHandle C} {w w' : σ} {p : C × UInt64}
    (ha : h.acquire t w = (.success p, h', w')) (command : Command) :
    (h.query t command w).2.1 = h'.settle p.2 (t.run h'.descriptor.options.responseTimeout command p.1 w').2.1
      (.within h'.descriptor.options.responseTimeout
        (t.run h'.descriptor.options.responseTimeout command p.1 w').1) := by
  simp [LiveHandle.query, ha, Outcome.success]

/-- A command that nobody comes between leaves the slot as `LiveHandle.query` does. -/
theorem run_query {σ : Type} (t : Transport C σ) (command : Command) (h : LiveHandle C) (w : σ) (s : St ι C) (i : ι)
    (hslot : s.slot = h.slot) (hfree : s.opener = none) (hi : s.stage i = .idle) :
    ∃ s', Run Step s s' ∧ Alike s'.slot (h.query t command w).2.1.slot := by
  cases hcurrent : h.slot.current with
  | some p =>
    -- the connection is there
    have hacquire : h.acquire t w = (.success p, h, w) := by simp [LiveHandle.acquire, hcurrent]
    have htake : Step s (s.goes i (.running p)) := .take s i p hi hfree (hslot ▸ hcurrent)
    obtain ⟨s', hrun, halike⟩ := run_settle h (s.goes i (.running p)) i p _ _ hslot hfree (by simp)
    rw [query_of_acquire hacquire]
    exact ⟨s', .head htake hrun, halike⟩
  | none =>
    have hlock : Step s (s.locked i) := .lock s i hi hfree (hslot ▸ hcurrent)
    have hopening : (s.locked i).stage i = .opening := by simp [St.locked]
    cases hopen : Outcome.within h.descriptor.options.dialTimeout (h.connect t w).1 with
    | waiting =>
      -- the attempt never ends, and the slot stays locked
      have hquery : (h.query t command w).2.1 = h := by
        simp [LiveHandle.query, LiveHandle.acquire, hcurrent, hopen]
      rw [hquery, ← hslot]
      exact ⟨_, .single hlock, rfl, rfl⟩
    | finished result =>
      have hopened : Step (s.locked i) ((s.locked i).opened i result) := .opened _ i result hopening
      cases result with
      | error e =>
        -- the attempt fails, and the command is not run
        have hquery : (h.query t command w).2.1 = h := by
          simp [LiveHandle.query, LiveHandle.acquire, hcurrent, hopen, Outcome.failed]
        rw [hquery, ← hslot]
        exact ⟨_, (Relation.ReflTransGen.single hlock).tail hopened, rfl, rfl⟩
      | ok c =>
        -- the connection is opened first
        have hacquire : h.acquire t w = (.success (c, (h.slot.install c).generation),
            { h with slot := h.slot.install c }, (h.connect t w).2) := by
          simp [LiveHandle.acquire, hcurrent, hopen]
        have hslot' : ((s.locked i).opened i (.ok c)).slot = h.slot.install c := by
          rw [← hslot]
          rfl
        obtain ⟨s', hrun, halike⟩ := run_settle { h with slot := h.slot.install c } ((s.locked i).opened i (.ok c)) i
          (c, (h.slot.install c).generation) _ _ hslot' rfl (by simp [St.opened, St.locked, ← hslot, St.goes])
        rw [query_of_acquire hacquire]
        exact ⟨s', .head hlock (.head hopened hrun), halike⟩

end SharedSlot

end Tether
