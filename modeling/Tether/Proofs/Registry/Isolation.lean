import Tether.Proofs.Fingerprint.Digest
import Tether.Proofs.Fingerprint.Join
import Tether.Proofs.Registry.Callers

namespace Tether

/-! # Isolation

Descriptors of different addresses should have different handles. The fingerprint tells apart what it hashes, and
what it hashes tells apart the addresses only where no comma and no bracket in an address gets in the way. We show:

* `hashed_ne_iff_unmistakable`: which addresses are told apart from all others;
* `hashed_ne_of_plain`: plain addresses are told apart from each other;
* `isolated_iff`: the handles of descriptors that are told apart are different, whatever the order of the calls.
-/

namespace Fingerprint

/-- The bytes whose digest is taken. -/
def hashed (addresses : List String) : Bytes := Utf8.encode (message addresses)

theorem sorted_ne_nil {as : List String} (h : as ≠ []) : sorted as ≠ [] := by
  intro hnil
  have hlen := (sorted_perm as).length_eq
  rw [hnil] at hlen
  exact h (List.length_eq_zero_iff.1 hlen.symm)

theorem accepted_sorted {as : List String} (h : Accepted as) : Accepted (sorted as) :=
  fun a ha => h a ((sorted_perm as).mem_iff.1 ha)

variable {d e : Descriptor}

/-- A descriptor that no others are mistaken for hashes what no other addresses hash. -/
theorem perm_of_hashed_eq_of_unmistakable (hu : Unmistakable (sorted d.addresses))
    (h : hashed d.addresses = hashed e.addresses) : d.addresses.Perm e.addresses := by
  rw [← sorted_eq_sorted_iff]
  exact eq_of_intercalate_eq hu (accepted_sorted d.endpoint_isSome) (accepted_sorted e.endpoint_isSome)
    (pairwise_sorted e.addresses) (sorted_ne_nil d.addresses_ne_nil) (sorted_ne_nil e.addresses_ne_nil)
    (Utf8.encode_injective h)

/-- Plain addresses are told apart from other plain addresses. -/
theorem perm_of_hashed_eq_of_plain (hp : ∀ a ∈ d.addresses ++ e.addresses, Address.Plain a)
    (h : hashed d.addresses = hashed e.addresses) : d.addresses.Perm e.addresses := by
  have hd : ∀ a ∈ sorted d.addresses, Address.Plain a := fun a ha =>
    hp a (List.mem_append_left _ ((sorted_perm d.addresses).mem_iff.1 ha))
  have he : ∀ a ∈ sorted e.addresses, Address.Plain a := fun a ha =>
    hp a (List.mem_append_right _ ((sorted_perm e.addresses).mem_iff.1 ha))
  rw [← sorted_eq_sorted_iff]
  exact eq_of_intercalate_eq_of_plain hd he (sorted_ne_nil d.addresses_ne_nil) (sorted_ne_nil e.addresses_ne_nil)
    (Utf8.encode_injective h)

/-- Other addresses hash the same where a descriptor can be mistaken. -/
theorem exists_hashed_eq (hu : ¬ Unmistakable (sorted d.addresses)) :
    ∃ e : Descriptor, ¬ d.addresses.Perm e.addresses ∧ hashed d.addresses = hashed e.addresses := by
  obtain ⟨bs, hne, hacc, hasc, htext, hlen, _⟩ := exists_twin (sorted_ne_nil d.addresses_ne_nil)
    (accepted_sorted d.endpoint_isSome) (pairwise_sorted d.addresses) hu
  refine ⟨.ofAddresses bs hne hacc, ?_, ?_⟩
  · -- permutations have one length
    intro hperm
    have hlength : (sorted d.addresses).length = bs.length :=
      (sorted_perm d.addresses).length_eq.trans hperm.length_eq
    exact hlen hlength.symm
  · show Utf8.encode (",".intercalate (sorted d.addresses)) = Utf8.encode (",".intercalate (sorted bs))
    rw [sorted_of_pairwise hasc, htext]

/-- The descriptors that are told apart from all others. -/
theorem hashed_ne_iff_unmistakable :
    (∀ e : Descriptor, ¬ d.addresses.Perm e.addresses → hashed d.addresses ≠ hashed e.addresses) ↔
      Unmistakable (sorted d.addresses) := by
  constructor
  · intro h
    apply Classical.byContradiction
    intro hu
    obtain ⟨e, hperm, heq⟩ := exists_hashed_eq hu
    exact h e hperm heq
  · intro hu e hperm heq
    exact hperm (perm_of_hashed_eq_of_unmistakable hu heq)

end Fingerprint

namespace SharedRegistry

open Fingerprint

variable {ι H : Type} [DecidableEq ι]

/-- Calls for different fingerprints get different handles. -/
theorem handle_ne {create : Descriptor → H} {s : St ι H} (hs : Reachable create s) {d e : Descriptor}
    (hf : d.fingerprint ≠ e.fingerprint) {i j : ι} {id id' : HandleId}
    (hd : ⟨i, .resolve d, .handle id⟩ ∈ s.log) (he : ⟨j, .resolve e, .handle id'⟩ ∈ s.log) : id ≠ id' := by
  have hinv := inv_of_reachable hs
  rintro rfl
  exact hf (hinv.wellFormed.probe_injective (hinv.calls i d id hd) (hinv.calls j e id he))

/-- A descriptor hashes what no descriptor of other addresses hashes exactly if it is unmistakable. Two descriptors
of different addresses hash different bytes if one of them is, or if all of their addresses are plain; unless the
digest maps these bytes to one value, the two have different fingerprints and no call gives them the same handle. -/
theorem isolated_iff (create : Descriptor → H) (d : Descriptor) :
    ((∀ e : Descriptor, ¬ d.addresses.Perm e.addresses → hashed d.addresses ≠ hashed e.addresses) ↔
      Unmistakable (sorted d.addresses)) ∧
    ∀ e : Descriptor, ¬ d.addresses.Perm e.addresses →
      (Unmistakable (sorted d.addresses) ∨ Unmistakable (sorted e.addresses) ∨
        ∀ a ∈ d.addresses ++ e.addresses, Address.Plain a) →
      hashed d.addresses ≠ hashed e.addresses ∧
      ((Sha256.digest (hashed d.addresses) = Sha256.digest (hashed e.addresses) →
          hashed d.addresses = hashed e.addresses) →
        d.fingerprint ≠ e.fingerprint ∧
        ∀ s : St ι H, Reachable create s → ∀ i j id id', ⟨i, .resolve d, .handle id⟩ ∈ s.log →
          ⟨j, .resolve e, .handle id'⟩ ∈ s.log → id ≠ id') := by
  refine ⟨hashed_ne_iff_unmistakable, ?_⟩
  intro e hperm happart
  have hne : hashed d.addresses ≠ hashed e.addresses := by
    intro heq
    rcases happart with hu | hu | hp
    · exact hperm (perm_of_hashed_eq_of_unmistakable hu heq)
    · exact hperm (perm_of_hashed_eq_of_unmistakable hu heq.symm).symm
    · exact hperm (perm_of_hashed_eq_of_plain hp heq)
  refine ⟨hne, ?_⟩
  intro hdigest
  -- fingerprints tell digests apart, and the digest tells the bytes apart
  have hf : d.fingerprint ≠ e.fingerprint := fun hf => hne (hdigest (ofAddresses_eq_iff.1 hf))
  refine ⟨hf, ?_⟩
  intro s hs i j id id' hd he
  exact handle_ne hs hf hd he

/-- Another node with nothing set. -/
def other : Descriptor := .ofAddresses ["b:2"] (List.cons_ne_nil _ _) (by decide)

/-- Two nodes of plain names never share a handle. -/
theorem lone_isolated_from_other :
    ¬ lone.addresses.Perm other.addresses ∧ (∀ a ∈ lone.addresses ++ other.addresses, Address.Plain a) ∧
      lone.fingerprint ≠ other.fingerprint ∧
      ∀ s : St Bool Descriptor, Reachable id s → ∀ i j k l, ⟨i, .resolve lone, .handle k⟩ ∈ s.log →
        ⟨j, .resolve other, .handle l⟩ ∈ s.log → k ≠ l := by
  have hperm : ¬ lone.addresses.Perm other.addresses := by decide
  have hplain : ∀ a ∈ lone.addresses ++ other.addresses, Address.Plain a := by decide
  have hlone : hashed lone.addresses = [97, 58, 49] := by
    rw [hashed, message, sorted_of_pairwise (by decide)]
    decide
  have hother : hashed other.addresses = [98, 58, 50] := by
    rw [hashed, message, sorted_of_pairwise (by decide)]
    decide
  have hdigest : Sha256.digest (hashed lone.addresses) ≠ Sha256.digest (hashed other.addresses) := by
    rw [hlone, hother]
    decide +kernel
  have happart := ((isolated_iff (ι := Bool) id lone).2 other hperm (Or.inr (Or.inr hplain))).2
    (fun heq => absurd heq hdigest)
  exact ⟨hperm, hplain, happart⟩

/-- Two nodes whose names have half a bracket each. -/
def halves : Descriptor := .ofAddresses ["[a:1", "b]:2"] (List.cons_ne_nil _ _) (by decide)

/-- One node whose name in brackets is made of the same characters, with a comma. -/
def whole : Descriptor := .ofAddresses ["[a:1,b]:2"] (List.cons_ne_nil _ _) (by decide)

/-- Two descriptors that are accepted, and whose addresses differ, hash the same bytes and share a handle. -/
theorem halves_mistaken_for_whole :
    Descriptor.new ["[a:1", "b]:2"] .single {} = .ok halves ∧ Descriptor.new ["[a:1,b]:2"] .single {} = .ok whole ∧
      ¬ halves.addresses.Perm whole.addresses ∧ hashed halves.addresses = hashed whole.addresses ∧
      halves.fingerprint = whole.fingerprint ∧
      ((({} : Registry Descriptor).getOrCreate id halves).registry.getOrCreate id whole).handle =
        (({} : Registry Descriptor).getOrCreate id halves).handle := by
  have hhashed : hashed halves.addresses = hashed whole.addresses := by
    -- both lists are in ascending order already
    rw [hashed, hashed, message, message, sorted_of_pairwise (by decide), sorted_of_pairwise (by decide)]
    decide
  have hf : halves.fingerprint = whole.fingerprint :=
    ofAddresses_eq_iff.2 (congrArg Sha256.digest hhashed)
  refine ⟨Descriptor.new_eq_ok_iff.2 ⟨rfl, rfl, rfl⟩, Descriptor.new_eq_ok_iff.2 ⟨rfl, rfl, rfl⟩, by decide, hhashed,
    hf, ?_⟩
  rw [Registry.getOrCreate_getOrCreate id {} hf]

end SharedRegistry

end Tether
