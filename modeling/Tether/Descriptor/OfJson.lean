import Tether.Descriptor.OfUrl
import Tether.Descriptor.Spec

namespace Tether

/-! # Descriptors from JSON values

The argument that makes a client is a URL or an object of options. The members of an object are read in
ascending order of their keys and the first one that does not fit is reported.
-/

namespace Json

/-- A text. -/
def asText : Json → Except Misfit String
  | .string s => .ok s
  | j => .error (.type j .text)

/-- A truth value. -/
def asFlag : Json → Except Misfit Bool
  | .bool b => .ok b
  | j => .error (.type j .boolean)

/-- A list of texts. -/
def asTexts : Json → Except Misfit (List String)
  | .array items => items.mapM asText
  | j => .error (.type j .sequence)

/-- A number of the signed 64-bit range. -/
def asInt64 : Json → Except Misfit Int64
  | .number (.int i) =>
    if Int64.minValue.toInt ≤ i ∧ i ≤ Int64.maxValue.toInt then .ok (Int64.ofInt i)
    else .error (.range (.int i) .int64)
  | j => .error (.type j .int64)

/-- A number of the unsigned 64-bit range. -/
def asUInt64 : Json → Except Misfit UInt64
  | .number (.int i) =>
    if 0 ≤ i ∧ i.toNat < UInt64.size then .ok (UInt64.ofNat i.toNat) else .error (.range (.int i) .uint64)
  | j => .error (.type j .uint64)

/-- `null` is none. -/
def asOptional {α : Type} (read : Json → Except Misfit α) : Json → Except Misfit (Option α)
  | .null => .ok none
  | j => some <$> read j

/-- The one field of the settings of a cluster. -/
def clusterField : String := "readFromReplicas"

/-- Settings of a cluster: an object, or an array of the field's value. -/
def asCluster : Json → Except Misfit ClusterOptions
  | .array [] => .ok {}
  | .array (flag :: more) => do
    let b ← asFlag flag
    if more.isEmpty then .ok ⟨b⟩ else .error (.excess (more.length + 1))
  | .object members =>
    members.foldlM (fun _ m =>
      if m.1 = clusterField then ClusterOptions.mk <$> asFlag m.2
      else .error (.field m.1 [clusterField])) {}
  | j => .error (.type j (.structure "ClusterSpec"))

/-- A JSON value as each of the types that fields have. -/
def fieldReaders (j : Json) : FieldReaders (Except Misfit) where
  texts := asTexts j
  flag := asFlag j
  text? := asOptional asText j
  int64? := asOptional asInt64 j
  uint64? := asOptional asUInt64 j
  cluster? := asOptional asCluster j

end Json

namespace ConnectionSpec

/-- Reads one member of an object of options. -/
def setMember (s : ConnectionSpec) (m : String × Json) : Except Json.Misfit ConnectionSpec :=
  match SpecField.ofName? m.1 with
  | none => .error (.field m.1 SpecField.names)
  | some field => s.set m.2.fieldReaders field

/-- Reads the members of an object of options. -/
def ofMembers (members : List (String × Json)) : Except Json.Misfit ConnectionSpec :=
  members.foldlM setMember {}

end ConnectionSpec

namespace Descriptor

/-- The descriptor that a URL or an object of options describes. -/
def ofJson : Json → Except DescriptorError Descriptor
  | .string url => ofUrl url
  | .object members =>
    match ConnectionSpec.ofMembers members with
    | .error cause => .error (.malformed (.misfit cause))
    | .ok spec => spec.toDescriptor
  | j => .error (.malformed (.notOptions j))

end Descriptor

end Tether
