import Tether.Proofs.Fingerprint.Order
import Tether.Proofs.Hash.Sha256
import Tether.Proofs.Text.Base64
import Tether.Proofs.Text.Utf8

namespace Tether

/-! # What a fingerprint spells

The text of a fingerprint is the digest of the addresses and nothing else. We show:

* `ofAddresses_eq_iff`: fingerprints are equal exactly if the digests are;
* `encode_intercalate`, `pairwise_map_encode_sorted`: what is digested are the bytes of the addresses, in ascending
  order and with commas between them;
* `fingerprint_spells_digest`: the text is forty-three characters from which just the digest is read.
-/

namespace Fingerprint

/-- Fingerprints tell apart what the digest tells apart. -/
theorem ofAddresses_eq_iff {as bs : List String} : ofAddresses as = ofAddresses bs ↔ digest as = digest bs := by
  constructor
  · intro h
    exact Base64.encode_injective (Fingerprint.mk.inj h)
  · intro h
    rw [ofAddresses, ofAddresses, h]

/-- The bytes of addresses with commas between them. -/
theorem encode_intercalate (as : List String) :
    Utf8.encode (",".intercalate as) = List.intercalate [0x2C] (as.map Utf8.encode) := by
  induction as with
  | nil => rfl
  | cons a as ih =>
    cases as with
    | nil => simp
    | cons b as =>
      have hcomma : Utf8.encode "," = [0x2C] := by decide
      rw [String.intercalate_cons_cons, Utf8.encode_append, Utf8.encode_append, ih, hcomma]
      simp

/-- Addresses in ascending order have their bytes in ascending order. -/
theorem pairwise_map_encode_sorted (as : List String) : ((sorted as).map Utf8.encode).Pairwise (· ≤ ·) := by
  rw [List.pairwise_map]
  exact (pairwise_sorted as).imp Utf8.encode_le_encode_iff.2

/-- The text of a fingerprint is forty-three characters of the alphabet, without padding. It is the one text that is
read as the digest of thirty-two bytes, and the one that spells it bit by bit. The digest is that of the rule for the
bytes of the addresses, in ascending order and with commas between them. So fingerprints are equal exactly if the
digests are. -/
theorem fingerprint_spells_digest (d : Descriptor) :
    (d.fingerprint.text.length = 43 ∧ d.fingerprint.text.toList ⊆ Base64.alphabet ∧ '=' ∉ d.fingerprint.text.toList) ∧
    (∀ text, Base64.decode? text = some (digest d.addresses) ↔ text = d.fingerprint.text) ∧
    (digest d.addresses).length = 32 ∧
    (∀ cs, Base64.Spells cs (digest d.addresses) ↔ cs = d.fingerprint.text.toList) ∧
    (∃ as : List Bytes, as.Perm (d.addresses.map Utf8.encode) ∧ as.Pairwise (· ≤ ·) ∧
      ∀ hash, Sha256.IsDigest (List.intercalate [0x2C] as) hash ↔ hash = digest d.addresses) ∧
    ∀ e : Descriptor, d.fingerprint = e.fingerprint ↔ digest d.addresses = digest e.addresses := by
  have htext : d.fingerprint.text.toList = Base64.encodeChars (digest d.addresses) := String.toList_ofList
  have hlen : (digest d.addresses).length = 32 := Sha256.length_digest _
  have hsubset : d.fingerprint.text.toList ⊆ Base64.alphabet := by
    rw [htext]
    exact (Base64.spells_encodeChars _).subset
  refine ⟨⟨?_, hsubset, ?_⟩, ?_, hlen, ?_, ?_, ?_⟩
  · rw [← String.length_toList, htext, Base64.length_encodeChars, hlen]
  · intro hmem
    exact absurd (hsubset hmem) (by decide)
  · intro text
    exact Base64.decode?_eq_some_iff
  · intro cs
    rw [htext]
    exact Base64.spells_iff
  · refine ⟨(sorted d.addresses).map Utf8.encode, (sorted_perm d.addresses).map Utf8.encode,
      pairwise_map_encode_sorted d.addresses, ?_⟩
    intro hash
    rw [← encode_intercalate]
    exact Sha256.isDigest_iff
  · intro e
    exact ofAddresses_eq_iff

example : (ofAddresses ["localhost:6379"]).text = "7CKBbZmv4ngP70r3AM1l0C7rcT8u7ZsD+/OczrWtlZI" := by decide +kernel

end Fingerprint

end Tether
