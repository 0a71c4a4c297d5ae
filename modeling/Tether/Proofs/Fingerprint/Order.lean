import Mathlib.Data.String.Basic
import Tether.Fingerprint

namespace Tether

/-! # The order of addresses

Addresses in ascending order depend on which addresses there are and how often, and on nothing else
(`Fingerprint.sorted_eq_sorted_iff`). So descriptors whose addresses are permutations of each other have one
fingerprint (`Fingerprint.fingerprint_eq_of_perm`).
-/

namespace Fingerprint

theorem sorted_perm (addresses : List String) : (sorted addresses).Perm addresses :=
  List.mergeSort_perm addresses _

theorem pairwise_sorted (addresses : List String) : (sorted addresses).Pairwise (· ≤ ·) := by
  have htrans : ∀ a b c : String, decide (a ≤ b) = true → decide (b ≤ c) = true → decide (a ≤ c) = true := by
    intro a b c hab hbc
    simp only [decide_eq_true_eq] at hab hbc ⊢
    exact le_trans hab hbc
  have htotal : ∀ a b : String, (decide (a ≤ b) || decide (b ≤ a)) = true := by
    intro a b
    simpa using le_total a b
  have h := List.pairwise_mergeSort htrans htotal addresses
  exact h.imp (by simp)

/-- Two ascending lists of the same addresses are one list. -/
theorem eq_of_perm_of_pairwise {xs ys : List String} (hx : xs.Pairwise (· ≤ ·)) (hy : ys.Pairwise (· ≤ ·))
    (h : xs.Perm ys) : xs = ys :=
  h.eq_of_pairwise (fun _ _ _ _ => le_antisymm) hx hy

theorem sorted_eq_sorted_iff {xs ys : List String} : sorted xs = sorted ys ↔ xs.Perm ys := by
  constructor
  · intro h
    exact (sorted_perm xs).symm.trans (h ▸ sorted_perm ys)
  · intro h
    exact eq_of_perm_of_pairwise (pairwise_sorted xs) (pairwise_sorted ys)
      ((sorted_perm xs).trans (h.trans (sorted_perm ys).symm))

theorem sorted_of_pairwise {xs : List String} (h : xs.Pairwise (· ≤ ·)) : sorted xs = xs :=
  eq_of_perm_of_pairwise (pairwise_sorted xs) h (sorted_perm xs)

theorem fingerprint_eq_of_perm {d e : Descriptor} (h : d.addresses.Perm e.addresses) :
    d.fingerprint = e.fingerprint := by
  have hs : sorted d.addresses = sorted e.addresses := sorted_eq_sorted_iff.2 h
  rw [Descriptor.fingerprint, Descriptor.fingerprint, ofAddresses, ofAddresses, digest, digest, message, message, hs]

end Fingerprint

end Tether
