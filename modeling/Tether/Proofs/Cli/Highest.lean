import Tether.Cli.Command

namespace Tether

/-! # What comes of the results of a fan-out

The results of the clients are taken one by one. We show:

* `outcome_eq_ok_iff`: with a number from every client the highest is printed;
* `outcome_eq_error_iff`: with a failure the first is what the fan-out fails with;
* `outcome_eq_waiting_iff`: with numbers alone, and too few, it goes on;
* `outcome_eq_ok_of_perm`: what is printed does not depend on the order of the results.
-/

namespace Fanout

/-- The highest of some numbers, if there are any. -/
def Highest (values : List Int64) : Option Int64 → Prop
  | none => values = []
  | some m => m ∈ values ∧ ∀ v ∈ values, v ≤ m

/-- Numbers that are the same but for their order have the same highest. -/
theorem Highest.eq {values values' : List Int64} {m m' : Option Int64} (h : Highest values m) (h' : Highest values' m')
    (hmem : ∀ v, v ∈ values ↔ v ∈ values') : m = m' := by
  cases m with
  | none =>
    cases m' with
    | none => rfl
    | some b =>
      have hb := (hmem b).2 h'.1
      rw [show values = [] from h] at hb
      cases hb
  | some a =>
    cases m' with
    | none =>
      have ha := (hmem a).1 h.1
      rw [show values' = [] from h'] at ha
      cases ha
    | some b => exact congrArg some (Int64.le_antisymm (h'.2 a ((hmem a).1 h.1)) (h.2 b ((hmem b).2 h'.1)))

/-- Of numbers alone the highest is found. -/
theorem highest_values (values : List Int64) : ∃ m, highest (values.map .ok) = .ok m ∧ Highest values m := by
  induction values with
  | nil => exact ⟨none, rfl, rfl⟩
  | cons v rest ih =>
    obtain ⟨m, hm, hhighest⟩ := ih
    cases m with
    | none =>
      have hrest : rest = [] := hhighest
      subst hrest
      exact ⟨some v, rfl, by simp [Highest]⟩
    | some m =>
      obtain ⟨hmem, hle⟩ := hhighest
      by_cases hlt : v < m
      · refine ⟨some m, by simp [highest, hm, hlt], List.mem_cons_of_mem v hmem, ?_⟩
        simpa using ⟨Int64.le_of_lt hlt, hle⟩
      · refine ⟨some v, by simp [highest, hm, hlt], List.mem_cons_self, ?_⟩
        have hmv : m ≤ v := Int64.not_lt.1 hlt
        simpa [Int64.le_refl] using fun x hx => Int64.le_trans (hle x hx) hmv

/-- The first failure is found, whatever comes behind it. -/
theorem highest_failure (values : List Int64) (e : OperationError) (after : List (Except OperationError Int64)) :
    highest (values.map .ok ++ .error e :: after) = .error e := by
  induction values with
  | nil => rfl
  | cons v rest ih => simp only [List.map_cons, List.cons_append, highest, ih]

/-- Results are numbers alone, or there is a first failure. -/
theorem values_or_failure (results : List (Except OperationError Int64)) :
    (∃ values : List Int64, results = values.map .ok) ∨
      ∃ (values : List Int64) (e : OperationError) (after : List (Except OperationError Int64)),
        results = values.map .ok ++ .error e :: after := by
  induction results with
  | nil => exact .inl ⟨[], rfl⟩
  | cons r rest ih =>
    cases r with
    | error e => exact .inr ⟨[], e, rest, rfl⟩
    | ok v =>
      rcases ih with ⟨values, rfl⟩ | ⟨values, e, after, rfl⟩
      · exact .inl ⟨v :: values, rfl⟩
      · exact .inr ⟨v :: values, e, after, rfl⟩

section Outcome

variable {clients handles : Nat} {key : String} {results : List (Except OperationError Int64)}

theorem outcome_values (clients handles : Nat) (key : String) (values : List Int64) :
    ∃ m, Highest values m ∧ outcome clients handles key (values.map .ok) =
      if values.length < clients then .waiting else .finished (.ok (report clients handles key m)) := by
  obtain ⟨m, hm, hhighest⟩ := highest_values values
  refine ⟨m, hhighest, ?_⟩
  rw [outcome, hm, List.length_map]

theorem outcome_failure (clients handles : Nat) (key : String) (values : List Int64) (e : OperationError)
    (after : List (Except OperationError Int64)) :
    outcome clients handles key (values.map .ok ++ .error e :: after) = .finished (.error (.operation e)) := by
  rw [outcome, highest_failure]

/-- What is printed needs a number from every client. -/
theorem outcome_eq_ok_iff {text : String} : outcome clients handles key results = .finished (.ok text) ↔
    ∃ (values : List Int64) (m : Option Int64), results = values.map .ok ∧ clients ≤ values.length ∧ Highest values m ∧
      text = report clients handles key m := by
  constructor
  · intro h
    rcases values_or_failure results with ⟨values, rfl⟩ | ⟨values, e, after, rfl⟩
    · obtain ⟨m, hhighest, hm⟩ := outcome_values clients handles key values
      rw [hm] at h
      split at h
      · cases h
      · next hlt =>
        cases h
        exact ⟨values, m, rfl, Nat.le_of_not_lt hlt, hhighest, rfl⟩
    · rw [outcome_failure] at h
      cases h
  · rintro ⟨values, m, rfl, hle, hhighest, rfl⟩
    obtain ⟨m', hhighest', hm'⟩ := outcome_values clients handles key values
    rw [hm', if_neg (Nat.not_lt.2 hle), hhighest.eq hhighest' fun v => Iff.rfl]

/-- What is printed does not depend on the order of the results. -/
theorem outcome_eq_ok_of_perm {results' : List (Except OperationError Int64)} {text : String}
    (h : results.Perm results') (hok : outcome clients handles key results = .finished (.ok text)) :
    outcome clients handles key results' = .finished (.ok text) := by
  obtain ⟨values, m, rfl, hle, hhighest, rfl⟩ := outcome_eq_ok_iff.1 hok
  rcases values_or_failure results' with ⟨values', rfl⟩ | ⟨values', e, after, rfl⟩
  · have hlength : values.length = values'.length := by simpa using h.length_eq
    have hmem : ∀ v, v ∈ values ↔ v ∈ values' := by
      intro v
      have hmap := h.mem_iff (a := Except.ok v)
      simpa using hmap
    obtain ⟨m', -, hm'⟩ := highest_values values'
    rw [hhighest.eq hm' hmem]
    exact outcome_eq_ok_iff.2 ⟨values', m', rfl, hlength ▸ hle, hm', rfl⟩
  · -- a failure would be among the numbers
    have hmem : Except.error e ∈ values.map Except.ok := h.mem_iff.2 (by simp)
    simp at hmem

/-- A fan-out fails as the first of its clients that failed. -/
theorem outcome_eq_error_iff {f : CliFailure} : outcome clients handles key results = .finished (.error f) ↔
    ∃ (values : List Int64) (e : OperationError) (after : List (Except OperationError Int64)),
      results = values.map .ok ++ .error e :: after ∧ f = .operation e := by
  constructor
  · intro h
    rcases values_or_failure results with ⟨values, rfl⟩ | ⟨values, e, after, rfl⟩
    · obtain ⟨m, -, hm⟩ := outcome_values clients handles key values
      rw [hm] at h
      split at h <;> cases h
    · rw [outcome_failure] at h
      cases h
      exact ⟨values, e, after, rfl, rfl⟩
  · rintro ⟨values, e, after, rfl, rfl⟩
    exact outcome_failure clients handles key values e after

/-- A fan-out goes on while there are only numbers, and too few. -/
theorem outcome_eq_waiting_iff : outcome clients handles key results = .waiting ↔
    ∃ values : List Int64, results = values.map .ok ∧ values.length < clients := by
  constructor
  · intro h
    rcases values_or_failure results with ⟨values, rfl⟩ | ⟨values, e, after, rfl⟩
    · obtain ⟨m, -, hm⟩ := outcome_values clients handles key values
      rw [hm] at h
      split at h
      · next hlt => exact ⟨values, rfl, hlt⟩
      · cases h
    · rw [outcome_failure] at h
      cases h
  · rintro ⟨values, rfl, hlt⟩
    obtain ⟨m, -, hm⟩ := outcome_values clients handles key values
    rw [hm, if_pos hlt]

end Outcome

theorem report_of_none (key : String) : report 0 0 key none = "clients:     0\nhandles:     0\n" := by
  have hzero : Decimal.ofNat 0 = "0" := by decide +kernel
  unfold report
  rw [hzero]
  show "clients:     " ++ "0" ++ "\n" ++ "handles:     " ++ "0" ++ "\n" ++ "" = _
  decide +kernel

theorem report_of_some (n : Nat) (key : String) (m : Int64) : report n 1 key (some m) =
    "clients:     " ++ Decimal.ofNat n ++ "\nhandles:     1\n" ++ key ++ ": " ++ Decimal.ofInt m.toInt ++ "\n" := by
  have hone : Decimal.ofNat 1 = "1" := by decide +kernel
  have hline : "\nhandles:     1\n" = "\n" ++ ("handles:     " ++ ("1" ++ "\n")) := by decide +kernel
  unfold report
  rw [hone, hline]
  simp only [String.append_assoc]

end Fanout

end Tether
