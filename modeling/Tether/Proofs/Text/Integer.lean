import Tether.Text.Integer

namespace Tether

/-! # The characters of numbers

A text that is read as a number from zero to a limit has nothing but digits behind a possible plus sign
(`Decimal.digit_of_natural?`), so it holds no separator. The text that is written for a number is read as the number
(`Decimal.natural?_ofNat`).
-/

namespace Decimal

theorem digit_of_digitsFrom? {acc n : Nat} {cs : List Char} (h : digitsFrom? acc cs = some n) :
    ∀ c ∈ cs, (digit? c).isSome := by
  induction cs generalizing acc with
  | nil => simp
  | cons c r ih =>
    simp only [digitsFrom?, Option.bind_eq_some_iff] at h
    obtain ⟨d, hd, hr⟩ := h
    intro x hx
    rcases List.mem_cons.1 hx with rfl | hx
    · simp [hd]
    · exact ih hr x hx

theorem digit_of_digits? {n : Nat} {cs : List Char} (h : digits? cs = some n) : ∀ c ∈ cs, (digit? c).isSome := by
  unfold digits? at h
  split at h
  · cases h
  · exact digit_of_digitsFrom? h

theorem digit_of_natural? {limit n : Nat} {cs : List Char} (h : natural? limit cs = some n) :
    ∀ c ∈ cs, c = '+' ∨ (digit? c).isSome := by
  simp only [natural?, Option.bind_eq_some_iff] at h
  obtain ⟨m, hm, _⟩ := h
  intro c hc
  split at hm
  · rcases List.mem_cons.1 hc with rfl | hc
    · exact Or.inl rfl
    · exact Or.inr (digit_of_digits? hm c hc)
  · exact Or.inr (digit_of_digits? hm c hc)

theorem natural?_le {limit n : Nat} {cs : List Char} (h : natural? limit cs = some n) : n ≤ limit := by
  simp only [natural?, Option.bind_eq_some_iff] at h
  obtain ⟨m, _, hm⟩ := h
  split at hm
  · next hle =>
    cases hm
    exact hle
  · cases hm

/-- What is neither the plus sign nor a digit does not stand in a number. -/
theorem notMem_of_natural? {limit n : Nat} {cs : List Char} (h : natural? limit cs = some n) {c : Char}
    (hc : c ≠ '+' ∧ digit? c = none) : c ∉ cs := by
  intro hm
  rcases digit_of_natural? h c hm with hplus | hdigit
  · exact hc.1 hplus
  · simp [hc.2] at hdigit

/-! ## Numbers as they are written -/

theorem digit?_digitChar {n : Nat} (h : n < 10) : digit? (Nat.digitChar n) = some n := by
  have hall : ∀ n < 10, digit? (Nat.digitChar n) = some n := by decide
  exact hall n h

theorem digitsFrom?_append (acc : Nat) (xs ys : List Char) :
    digitsFrom? acc (xs ++ ys) = (digitsFrom? acc xs).bind fun n => digitsFrom? n ys := by
  induction xs generalizing acc with
  | nil => rfl
  | cons c r ih => simp only [List.cons_append, digitsFrom?, ih, Option.bind_assoc]

theorem digitsFrom?_toDigits (n : Nat) : digitsFrom? 0 (Nat.toDigits 10 n) = some n := by
  induction n using Nat.strongRecOn with
  | ind n ih =>
    rw [Nat.toDigits_eq_if (by decide)]
    split
    · next hlt => simp [digitsFrom?, digit?_digitChar hlt]
    · next hge =>
      -- the last digit comes off the end
      have hlt : n % 10 < 10 := Nat.mod_lt n (by decide)
      have hsplit : n / 10 * 10 + n % 10 = n := Nat.div_add_mod' n 10
      rw [digitsFrom?_append, ih (n / 10) (by omega)]
      simp [digitsFrom?, digit?_digitChar hlt, hsplit]

theorem digits?_ofNat (n : Nat) : digits? (ofNat n).toList = some n := by
  have hdigits : (ofNat n).toList = Nat.toDigits 10 n := Nat.toList_repr
  have hne : (Nat.toDigits 10 n).isEmpty = false := by simp
  rw [hdigits, digits?, hne, digitsFrom?_toDigits]
  rfl

theorem digit_of_mem_ofNat {n : Nat} {c : Char} (h : c ∈ (ofNat n).toList) : (digit? c).isSome :=
  digit_of_digits? (digits?_ofNat n) c h

/-- The text of a number within the limit is read as the number. -/
theorem natural?_ofNat {limit n : Nat} (h : n ≤ limit) : natural? limit (ofNat n).toList = some n := by
  have hsign : ∀ r, (ofNat n).toList ≠ '+' :: r := by
    intro r heq
    have hplus : '+' ∈ (ofNat n).toList := by simp [heq]
    exact absurd (digit_of_mem_ofNat hplus) (by decide)
  unfold natural?
  split
  · next r heq => exact absurd heq (hsign r)
  · simp [digits?_ofNat, h]

end Decimal

end Tether
