import Tether.Descriptor.Basic
import Tether.Hash.Sha256
import Tether.Text.Base64

namespace Tether

/-! # Fingerprints

A fingerprint says which nodes a descriptor names and nothing else: it is the digest of the addresses in
ascending order with commas between them. Descriptors with one fingerprint share a connection.
-/

/-- The identity of a set of addresses. -/
structure Fingerprint where
  text : String
deriving DecidableEq, Repr

namespace Fingerprint

/-- Addresses in ascending order. -/
def sorted (addresses : List String) : List String := addresses.mergeSort fun a b => decide (a ≤ b)

/-- The text whose digest is taken. -/
def message (addresses : List String) : String := ",".intercalate (sorted addresses)

/-- The digest of addresses. -/
def digest (addresses : List String) : Bytes := Sha256.digest (Utf8.encode (message addresses))

/-- The fingerprint of addresses. -/
def ofAddresses (addresses : List String) : Fingerprint := ⟨Base64.encode (digest addresses)⟩

/-- Fingerprints stand in the order of their texts. -/
def le (a b : Fingerprint) : Bool := decide (a.text ≤ b.text)

end Fingerprint

/-- The fingerprint of a descriptor. -/
def Descriptor.fingerprint (d : Descriptor) : Fingerprint := Fingerprint.ofAddresses d.addresses

end Tether
