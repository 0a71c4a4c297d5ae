import Tether.Proofs.Handle.Callers

namespace Tether

/-! # Late failures

A command may lose its connection long after others did and a newer one was opened. The generations keep the newer
one safe, as long as they do not repeat. We show:

* `eq_of_generation_eq`: a generation has one connection;
* `clean_of_reachable`: a reset takes away what its command ran on or nothing, and one reset of a generation takes
  something away;
* `late_failures_are_harmless`: what callers may rely on.
-/

namespace SharedSlot

variable {ι C : Type}

/-! ## While generations do not repeat -/

/-- Fewer connections were installed than there are generations. -/
def Fresh (s : St ι C) : Prop := (installs s.history).length < UInt64.size

theorem toNat_of_getElem? {s : St ι C} (hs : Inv s) (hf : Fresh s) {k : Nat} {p : C × UInt64}
    (hp : (installs s.history)[k]? = some p) : p.2.toNat = k + 1 := by
  have hlt : k < (installs s.history).length := (List.getElem?_eq_some_iff.1 hp).1
  rw [hs.numbered k p hp, UInt64.toNat_ofNat']
  exact Nat.mod_eq_of_lt (Nat.lt_of_le_of_lt hlt hf)

/-- A generation has one connection. -/
theorem eq_of_generation_eq {s : St ι C} (hs : Inv s) (hf : Fresh s) {p q : C × UInt64}
    (hp : p ∈ installs s.history) (hq : q ∈ installs s.history) (h : p.2 = q.2) : p = q := by
  obtain ⟨k, hk⟩ := List.mem_iff_getElem?.1 hp
  obtain ⟨l, hl⟩ := List.mem_iff_getElem?.1 hq
  have hkl : k + 1 = l + 1 := by
    rw [← toNat_of_getElem? hs hf hk, ← toNat_of_getElem? hs hf hl, h]
  rw [Nat.succ_inj.1 hkl, hl] at hk
  exact (Option.some.inj hk).symm

/-- What the slot holds of a generation is what a caller got of it. -/
theorem current_of_holds {s : St ι C} (hs : Inv s) (hf : Fresh s) {p : C × UInt64} (hp : p ∈ installs s.history)
    (h : s.slot.holds p.2 = true) : s.slot.current = some p := by
  obtain ⟨c, hc⟩ := Slot.holds_iff.1 h
  have hmem : (c, p.2) ∈ installs s.history := mem_installs_of_standing ((hs.current _).1 hc)
  rw [hc, eq_of_generation_eq hs hf hmem hp rfl]

/-- The next generation is a new one. -/
theorem generation_ne_next {s : St ι C} (hs : Inv s) (hf : (installs s.history).length + 1 < UInt64.size)
    {p : C × UInt64} (hp : p ∈ installs s.history) : p.2 ≠ s.slot.generation + 1 := by
  obtain ⟨k, hk⟩ := List.mem_iff_getElem?.1 hp
  have hlt : k < (installs s.history).length := (List.getElem?_eq_some_iff.1 hk).1
  have hfs : Fresh s := Nat.lt_of_succ_lt hf
  have hnext : (s.slot.generation + 1).toNat = (installs s.history).length + 1 := by
    rw [hs.generation, ← UInt64.ofNat_one, ← UInt64.ofNat_add, UInt64.toNat_ofNat', Nat.mod_eq_of_lt hf]
  intro h
  rw [← h, toNat_of_getElem? hs hfs hk] at hnext
  omega

/-- The resets of a generation that took a connection away. -/
def takings (h : List (Change ι C)) (g : UInt64) : List (Reset ι C) :=
  (resets h).filter fun r => r.told && r.ranOn.2 == g

/-- What resets have done while generations did not repeat. -/
structure Clean (s : St ι C) : Prop where
  removed : ∀ r ∈ resets s.history, r.removed = if r.told then some r.ranOn else none
  gone : ∀ r ∈ resets s.history, r.told = true → s.slot.holds r.ranOn.2 = false
  once : ∀ g, (takings s.history g).length ≤ 1

theorem clean_init : Clean ({} : St ι C) where
  removed := by simp [resets]
  gone := by simp [resets]
  once := by simp [takings, resets]

variable [DecidableEq ι]

theorem fresh_of_step {s s' : St ι C} (h : Step s s') (hf : Fresh s') : Fresh s :=
  Nat.lt_of_le_of_lt (prefix_installs h).length_le hf

theorem clean_step {s s' : St ι C} (h : Step s s') (hs : Inv s) (hf : Fresh s') (hc : Clean s) : Clean s' := by
  have hfs : Fresh s := fresh_of_step h hf
  rcases step_slot h with ⟨hslot, hh⟩ | ⟨_, c, _, _, hslot, hh⟩ | ⟨r, hlost, hslot, hh, htold, hremoved⟩
  · -- nothing happens to the slot
    refine ⟨?_, ?_, ?_⟩
    · rw [hh]
      exact hc.removed
    · rw [hh, hslot]
      exact hc.gone
    · rw [hh]
      exact hc.once
  · -- the new connection has a generation that no reset was of
    have hresets : resets s'.history = resets s.history := by simp [hh]
    refine ⟨?_, ?_, ?_⟩
    · rw [hresets]
      exact hc.removed
    · rw [hresets, hslot]
      intro r hr _
      have hbound : (installs s.history).length + 1 < UInt64.size := by simpa [Fresh, hh] using hf
      have hne : r.ranOn.2 ≠ s.slot.generation + 1 := generation_ne_next hs hbound (hs.ranOn r hr)
      simp [Slot.holds, Slot.install, Ne.symm hne]
    · intro g
      rw [takings, hresets]
      exact hc.once g
  · -- a reset takes away what its command ran on, and no reset of that generation did so before
    have hmem : r.ranOn ∈ installs s.history := hs.inHand r.caller r.ranOn (by rw [hlost]; rfl)
    have hresets : resets s'.history = resets s.history ++ [r] := by simp [hh]
    refine ⟨?_, ?_, ?_⟩
    · intro x hx
      rw [hresets] at hx
      rcases List.mem_append.1 hx with hx | hx
      · exact hc.removed x hx
      · rw [List.mem_singleton.1 hx, hremoved]
        split
        · next ht => exact current_of_holds hs hfs hmem (htold ▸ ht)
        · rfl
    · -- what a reset does not find now was not found before
      intro x hx ht
      rw [hresets] at hx
      rw [hslot]
      apply Bool.eq_false_iff.2
      intro hholds
      obtain ⟨hbefore, hne⟩ := Slot.holds_discard_iff.1 hholds
      rcases List.mem_append.1 hx with hx | hx
      · rw [hc.gone x hx ht] at hbefore
        cases hbefore
      · rw [List.mem_singleton.1 hx] at hne
        exact hne rfl
    · intro g
      rw [takings, hresets, List.filter_append]
      by_cases hr : (r.told && r.ranOn.2 == g) = true
      · -- this one took a connection away, so none of its generation did before
        have hnone : takings s.history g = [] := by
          apply List.filter_eq_nil_iff.2
          intro x hx hxg
          simp only [Bool.and_eq_true, beq_iff_eq] at hr hxg
          have hholds : s.slot.holds r.ranOn.2 = true := htold ▸ hr.1
          rw [hr.2, ← hxg.2, hc.gone x hx hxg.1] at hholds
          cases hholds
        rw [takings] at hnone
        simp [hnone, hr]
      · simpa [takings, hr] using hc.once g

theorem clean_of_reachable {s : St ι C} (h : Reachable s) (hf : Fresh s) : Clean s := by
  induction h with
  | refl => exact clean_init
  | tail hrun hlast ih =>
    exact clean_step hlast (inv_of_reachable hrun) hf (ih (fresh_of_step hlast hf))

/-! ## What callers may rely on -/

/-- Whatever the order of the steps, while generations do not repeat: the slot holds exactly the last connection that
was installed, until a reset of its generation; a reset takes away the connection that its command ran on or none, and
says which; one reset of a generation takes one away; only one caller at a time opens a connection, and only while
there is none; no step puts a connection in the place of another; and the generation counts the connections. The steps
of a command that nobody comes between leave the slot as `LiveHandle.query` does. -/
theorem late_failures_are_harmless {s : St ι C} (hs : Reachable s) (hf : Fresh s) :
    (∀ p, s.slot.current = some p ↔ Standing s.history p) ∧
    (∀ r ∈ resets s.history, r.ranOn ∈ installs s.history ∧ r.removed = if r.told then some r.ranOn else none) ∧
    (∀ g, (takings s.history g).length ≤ 1) ∧
    (∀ i, s.stage i = .opening → s.slot.current = none ∧ ∀ j, s.stage j = .opening → j = i) ∧
    (∀ s', Step s s' → ∀ p, s.slot.current = some p → s'.slot.current = some p ∨ s'.slot.current = none) ∧
    s.slot.generation.toNat = (installs s.history).length ∧
    ∀ (σ : Type) (t : Transport C σ) (command : Command) (h : LiveHandle C) (w : σ) (i : ι), s.slot = h.slot →
      s.opener = none → s.stage i = .idle → ∃ s', Run Step s s' ∧ Alike s'.slot (h.query t command w).2.1.slot := by
  have hinv := inv_of_reachable hs
  have hclean := clean_of_reachable hs hf
  refine ⟨hinv.current, fun r hr => ⟨hinv.ranOn r hr, hclean.removed r hr⟩, hclean.once, ?_, ?_, ?_,
    fun σ t command h w i => run_query t command h w s i⟩
  · intro i hi
    have hopener : s.opener = some i := (hinv.opener i).1 hi
    refine ⟨hinv.empty i hopener, ?_⟩
    intro j hj
    rw [(hinv.opener j).1 hj] at hopener
    exact Option.some.inj hopener
  · intro s' h p hp
    rcases step_slot h with ⟨hslot, _⟩ | ⟨i, c, hi, _⟩ | ⟨r, _, hslot, _⟩
    · rw [hslot]
      exact Or.inl hp
    · -- nobody opens a connection while there is one
      rw [hinv.empty i ((hinv.opener i).1 hi)] at hp
      cases hp
    · rw [hslot, Slot.current_discard]
      split
      · exact Or.inr rfl
      · exact Or.inl hp
  · rw [hinv.generation, UInt64.toNat_ofNat', Nat.mod_eq_of_lt hf]

/-- The loss of a connection. -/
def loss : Except OperationError Reply := .error (.store .lostConnection)

/-- Two commands run on the first connection and lose it, and one of them has reset the slot when a third caller
opens the second connection. Then the other resets the slot. -/
def lateFailure : St (Fin 3) String :=
  let both := ((({} : St (Fin 3) String).locked 0).opened 0 (.ok "first")).goes 1 (.running ("first", 1))
  let lost := (both.ended 0 ("first", 1) loss).ended 1 ("first", 1) loss
  (((lost.resetBy 0 ("first", 1)).locked 2).opened 2 (.ok "second")).resetBy 1 ("first", 1)

/-- The late failure leaves the second connection alone. -/
theorem late_failure_is_harmless :
    Reachable lateFailure ∧ Fresh lateFailure ∧ Standing lateFailure.history ("second", 2) ∧
      lateFailure.slot.current = some ("second", 2) ∧
      (resets lateFailure.history).map (·.removed) = [some ("first", 1), none] ∧
      (takings lateFailure.history 1).length ≤ 1 := by
  have hrun : Reachable lateFailure :=
    ((((((((Relation.ReflTransGen.single
      (.lock {} 0 rfl rfl rfl)).tail
      (.opened _ 0 (.ok "first") rfl)).tail
      (.take _ 1 ("first", 1) rfl rfl rfl)).tail
      (.ended _ 0 ("first", 1) loss rfl)).tail
      (.ended _ 1 ("first", 1) loss rfl)).tail
      (.reset _ 0 ("first", 1) rfl rfl)).tail
      (.lock _ 2 rfl rfl rfl)).tail
      (.opened _ 2 (.ok "second") rfl)).tail
      (.reset _ 1 ("first", 1) rfl rfl)
  have hfresh : Fresh lateFailure := by
    show 2 < UInt64.size
    decide
  have hcurrent : lateFailure.slot.current = some ("second", 2) := rfl
  have hrely := late_failures_are_harmless hrun hfresh
  exact ⟨hrun, hfresh, (hrely.1 _).1 hcurrent, hcurrent, rfl, hrely.2.2.1 1⟩

end SharedSlot

end Tether
