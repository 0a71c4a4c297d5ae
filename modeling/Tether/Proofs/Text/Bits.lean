import Mathlib.Algebra.Group.Nat.Defs
import Tether.Text.Utf8

namespace Tether

/-! # Numbers and bytes as bits

A number is written in as many binary places as are asked for, the most significant first. We show:

* `ofNat_append`: two numbers side by side are one number in more places;
* `flatMap_ofNat_inj`: numbers in places of one width are read off from their bits.
-/

namespace Bits

/-- The last `width` binary places of a number, the most significant first. -/
def ofNat : Nat → Nat → List Bool
  | 0, _ => []
  | width + 1, n => n.testBit width :: ofNat width n

/-- The bits of bytes, one byte behind the other. -/
def ofBytes (bs : Bytes) : List Bool := bs.flatMap fun b => ofNat 8 b.toNat

@[simp] theorem length_ofNat (width n : Nat) : (ofNat width n).length = width := by
  induction width with
  | zero => rfl
  | succ width ih => simp [ofNat, ih]

/-- The places depend on the bits of the number and on nothing else. -/
theorem ofNat_eq_ofNat_iff {width m n : Nat} :
    ofNat width m = ofNat width n ↔ ∀ i < width, m.testBit i = n.testBit i := by
  induction width with
  | zero => simp [ofNat]
  | succ width ih => simp only [ofNat, List.cons.injEq, ih, Nat.forall_lt_succ_right, and_comm]

theorem ofNat_zero (width : Nat) : ofNat width 0 = List.replicate width false := by
  induction width with
  | zero => rfl
  | succ width ih => simp [ofNat, ih, List.replicate_succ]

/-- What does not fit into the places is left out. -/
theorem ofNat_mod (width n : Nat) : ofNat width (n % 2 ^ width) = ofNat width n := by
  rw [ofNat_eq_ofNat_iff]
  intro i hi
  simp [Nat.testBit_mod_two_pow, hi]

/-- Two numbers side by side are one number. -/
theorem ofNat_append (v m : Nat) {width n : Nat} (hn : n < 2 ^ width) :
    ofNat v m ++ ofNat width n = ofNat (v + width) (m * 2 ^ width + n) := by
  have hbit : ∀ i, (m * 2 ^ width + n).testBit i =
      if i < width then n.testBit i else m.testBit (i - width) := by
    intro i
    rw [Nat.mul_comm]
    exact Nat.testBit_two_pow_mul_add m hn i
  induction v with
  | zero =>
    rw [Nat.zero_add, ofNat, List.nil_append, ofNat_eq_ofNat_iff]
    intro i hi
    rw [hbit, if_pos hi]
  | succ v ih =>
    rw [Nat.succ_add, ofNat, ofNat, List.cons_append, ih, hbit, if_neg (by omega), Nat.add_sub_cancel]

/-- The last places apart from those before them. -/
theorem ofNat_add (v width n : Nat) : ofNat (v + width) n = ofNat v (n / 2 ^ width) ++ ofNat width n := by
  have hlt : n % 2 ^ width < 2 ^ width := Nat.mod_lt n (Nat.two_pow_pos width)
  rw [← ofNat_mod width, ofNat_append v _ hlt, Nat.div_add_mod']

/-- A number that fits into the places is read off from them. -/
theorem eq_of_ofNat_eq {width m n : Nat} (hm : m < 2 ^ width) (hn : n < 2 ^ width)
    (h : ofNat width m = ofNat width n) : m = n := by
  rw [← Nat.mod_eq_of_lt hm, ← Nat.mod_eq_of_lt hn]
  apply Nat.eq_of_testBit_eq
  intro i
  rw [Nat.testBit_mod_two_pow, Nat.testBit_mod_two_pow]
  by_cases hi : i < width
  · rw [ofNat_eq_ofNat_iff.1 h i hi]
  · simp [hi]

/-! ## Several numbers of one width -/

theorem length_flatMap_ofNat (width : Nat) (ns : List Nat) :
    (ns.flatMap (ofNat width)).length = width * ns.length := by
  induction ns with
  | nil => rfl
  | cons n ns ih =>
    rw [List.flatMap_cons, List.length_append, ih, length_ofNat, List.length_cons, Nat.mul_add_one, Nat.add_comm]

/-- As many numbers of one width are read off from their bits. -/
theorem flatMap_ofNat_inj {width : Nat} {ms ns : List Nat} (hlen : ms.length = ns.length)
    (hm : ∀ m ∈ ms, m < 2 ^ width) (hn : ∀ n ∈ ns, n < 2 ^ width)
    (h : ms.flatMap (ofNat width) = ns.flatMap (ofNat width)) : ms = ns := by
  induction ms generalizing ns with
  | nil => exact (List.length_eq_zero_iff.1 hlen.symm).symm
  | cons m ms ih =>
    cases ns with
    | nil => cases hlen
    | cons n ns =>
      rcases List.forall_mem_cons.1 hm with ⟨hm₁, hms⟩
      rcases List.forall_mem_cons.1 hn with ⟨hn₁, hns⟩
      rw [List.flatMap_cons, List.flatMap_cons] at h
      obtain ⟨hfirst, hrest⟩ := List.append_inj h (by simp)
      rw [eq_of_ofNat_eq hm₁ hn₁ hfirst, ih (Nat.succ.inj hlen) hms hns hrest]

/-! ## Bytes -/

/-- A byte holds what fits into eight places. -/
theorem toNat_byte {n : Nat} (h : n < 2 ^ 8) : (UInt8.ofNat n).toNat = n := UInt8.toNat_ofNat_of_lt' h

theorem ofBytes_eq_flatMap (bs : Bytes) : ofBytes bs = (bs.map UInt8.toNat).flatMap (ofNat 8) := by
  rw [ofBytes, List.flatMap_map]

@[simp] theorem ofBytes_nil : ofBytes [] = [] := rfl

theorem ofBytes_cons (b : UInt8) (bs : Bytes) : ofBytes (b :: bs) = ofNat 8 b.toNat ++ ofBytes bs := rfl

theorem ofBytes_append (as bs : Bytes) : ofBytes (as ++ bs) = ofBytes as ++ ofBytes bs :=
  List.flatMap_append

@[simp] theorem length_ofBytes (bs : Bytes) : (ofBytes bs).length = 8 * bs.length := by
  rw [ofBytes_eq_flatMap, length_flatMap_ofNat, List.length_map]

theorem ofBytes_replicate_zero (n : Nat) : ofBytes (List.replicate n 0) = List.replicate (8 * n) false := by
  induction n with
  | zero => rfl
  | succ n ih =>
    rw [List.replicate_succ, ofBytes_cons, ih, UInt8.toNat_zero, ofNat_zero, List.replicate_append_replicate]
    congr 1
    omega

/-- Bytes are read off from their bits. -/
theorem ofBytes_injective {as bs : Bytes} (h : ofBytes as = ofBytes bs) : as = bs := by
  have hlen : as.length = bs.length := by
    have hbits := congrArg List.length h
    rw [length_ofBytes, length_ofBytes] at hbits
    omega
  have hlt : ∀ bs : Bytes, ∀ n ∈ bs.map UInt8.toNat, n < 2 ^ 8 := by
    intro bs n hn
    obtain ⟨b, _, rfl⟩ := List.mem_map.1 hn
    exact b.toNat_lt
  rw [ofBytes_eq_flatMap, ofBytes_eq_flatMap] at h
  have hnums := flatMap_ofNat_inj (by simpa using hlen) (hlt as) (hlt bs) h
  exact (List.map_inj_right fun _ _ => UInt8.toNat_inj.1).1 hnums

end Bits

end Tether
