import Mathlib.Analysis.SpecialFunctions.Pow.NthRootLemmas
import Tether.Hash.Sha256
import Tether.Proofs.Hash.Standard

namespace Tether

/-! # Where the constants of SHA-256 come from

The words that stand in `Sha256.roundWords` and `Sha256.State.initial` are what the rule reads off the roots of primes
(`roundConstant_eq`, `initialWords_eq`).
-/

namespace Sha256

/-! ## The primes -/

theorem length_filter_range (p : Nat → Prop) [DecidablePred p] (n : Nat) :
    ((List.range n).filter p).length = Nat.count p n := by
  induction n with
  | zero => rfl
  | succ n ih =>
    rw [List.range_succ, List.filter_append, List.length_append, ih, Nat.count_succ]
    by_cases hp : p n <;> simp [hp]

/-- The numbers with a property are found where they stand among those below a bound. -/
theorem nth_of_getElem?_filter_range {p : Nat → Prop} [DecidablePred p] {n t q : Nat}
    (h : ((List.range n).filter p)[t]? = some q) : Nat.nth p t = q := by
  induction n with
  | zero => cases h
  | succ n ih =>
    rw [List.range_succ, List.filter_append, List.getElem?_append] at h
    split at h
    · exact ih h
    · next hge =>
      by_cases hp : p n
      · -- the last one, and as many stand before it as are counted
        rw [List.filter_singleton, decide_eq_true hp, cond_true, List.getElem?_singleton] at h
        split at h
        · next hlast =>
          obtain rfl := Option.some.inj h
          have ht : t = Nat.count p n := by
            rw [← length_filter_range]
            omega
          rw [ht, Nat.nth_count hp]
        · cases h
      · simp [hp] at h

/-- The first sixty-four primes. -/
def primes : List Nat := [
  2, 3, 5, 7, 11, 13, 17, 19, 23, 29, 31, 37, 41, 43, 47, 53,
  59, 61, 67, 71, 73, 79, 83, 89, 97, 101, 103, 107, 109, 113, 127, 131,
  137, 139, 149, 151, 157, 163, 167, 173, 179, 181, 191, 193, 197, 199, 211, 223,
  227, 229, 233, 239, 241, 251, 257, 263, 269, 271, 277, 281, 283, 293, 307, 311]

/-- A small number is tried with the numbers up to its root. -/
theorem prime_iff {n : Nat} (hn : n < 18 * 18) : Nat.Prime n ↔ 2 ≤ n ∧ ∀ m < 18, 2 ≤ m → m < n → n % m ≠ 0 := by
  constructor
  · intro hp
    refine ⟨hp.two_le, ?_⟩
    intro m _ hm hmn hmod
    have hm' : m = 1 ∨ m = n := hp.eq_one_or_self_of_dvd m (Nat.dvd_of_mod_eq_zero hmod)
    omega
  · rintro ⟨htwo, h⟩
    refine Nat.prime_def_le_sqrt.2 ⟨htwo, ?_⟩
    intro m hm hle hdvd
    have hroot : Nat.sqrt n < 18 := Nat.sqrt_lt.2 hn
    have hself : Nat.sqrt n < n := Nat.sqrt_lt_self htwo
    exact h m (by omega) hm (by omega) (Nat.mod_eq_zero_of_dvd hdvd)

theorem filter_prime_range : (List.range 312).filter Nat.Prime = primes := by
  have hsmall : ∀ n ∈ List.range 312,
      decide (Nat.Prime n) = decide (2 ≤ n ∧ ∀ m : Nat, m < 18 → 2 ≤ m → m < n → n % m ≠ 0) := by
    intro n hn
    have hlt : n < 312 := List.mem_range.1 hn
    rw [decide_eq_decide]
    exact prime_iff (by omega)
  rw [List.filter_congr hsmall]
  decide +kernel

theorem nth_prime {t : Nat} (ht : t < 64) : Nat.nth Nat.Prime t = primes.getD t 0 := by
  apply nth_of_getElem?_filter_range
  rw [filter_prime_range, List.getD_eq_getElem?_getD, List.getElem?_eq_getElem ht, Option.getD_some]

/-! ## The places of their roots -/

/-- The places behind the point are a word if the root lies between it and the next, whatever stands before the point. -/
theorem rootPlaces_eq {k n : Nat} (whole : Nat) (x : UInt32) (hle : (whole * 2 ^ 32 + x.toNat) ^ k ≤ n * 2 ^ (32 * k))
    (hlt : n * 2 ^ (32 * k) < (whole * 2 ^ 32 + x.toNat + 1) ^ k) : rootPlaces k n = x.toBitVec := by
  rw [rootPlaces, Nat.nthRoot_eq_of_le_of_lt hle hlt]
  apply BitVec.eq_of_toNat_eq
  rw [BitVec.toNat_ofNat, Nat.mul_add_mod', Nat.mod_eq_of_lt x.toNat_lt, UInt32.toNat_toBitVec]

/-- A table holds the places of the roots of the primes if each of its words lies between the root and the next. -/
theorem rootPlaces_nth_prime {k : Nat} {table : List UInt32} (h : ∀ t < table.length, ∃ whole < 7,
      (whole * 2 ^ 32 + (table.getD t 0).toNat) ^ k ≤ primes.getD t 0 * 2 ^ (32 * k) ∧
        primes.getD t 0 * 2 ^ (32 * k) < (whole * 2 ^ 32 + (table.getD t 0).toNat + 1) ^ k)
    {t : Nat} (ht : t < table.length) (hlt : t < 64) :
    rootPlaces k (Nat.nth Nat.Prime t) = (table.getD t 0).toBitVec := by
  obtain ⟨whole, _, hle, hnext⟩ := h t ht
  rw [nth_prime hlt]
  exact rootPlaces_eq whole _ hle hnext

theorem roundConstant_eq {t : Nat} (ht : t < 64) : roundConstant t = (roundWords.getD t 0).toBitVec :=
  rootPlaces_nth_prime (by decide +kernel) ht ht

/-- The words of a state. -/
def State.toList (s : State) : List UInt32 := [s.a, s.b, s.c, s.d, s.e, s.f, s.g, s.h]

/-- The words of a state as the rule has them. -/
def State.bitWords (s : State) : List Word := s.toList.map UInt32.toBitVec

theorem initialWords_eq : initialWords = State.initial.bitWords := by
  have hplaces : ∀ t < 8, rootPlaces 2 (Nat.nth Nat.Prime t) = (State.initial.toList.getD t 0).toBitVec := by
    intro t ht
    exact rootPlaces_nth_prime (by decide +kernel) ht (by omega)
  rw [initialWords, List.map_congr_left fun t ht => hplaces t (List.mem_range.1 ht)]
  rfl

end Sha256

end Tether
