import Tether.Descriptor.Spec
import Tether.Toml.Document

namespace Tether

/-! # Connection options from TOML

A TOML table holds the same fields as an object of options. TOML has no value for what is left out, and a
number for a timeout must not be negative.
-/

namespace Toml

/-- A text. -/
def asText? : Toml → Option String
  | .string s => some s
  | _ => none

/-- A truth value. -/
def asFlag? : Toml → Option Bool
  | .boolean b => some b
  | _ => none

/-- A list of texts. -/
def asTexts? : Toml → Option (List String)
  | .array items => items.mapM asText?
  | _ => none

/-- A whole number. -/
def asInt64? : Toml → Option Int64
  | .integer i => some i
  | _ => none

/-- A whole number that is not negative. -/
def asUInt64? : Toml → Option UInt64
  | .integer i => if 0 ≤ i then some i.toUInt64 else none
  | _ => none

/-- Settings of a cluster: a table, or an array that begins with the value of its field. -/
def asCluster? : Toml → Option ClusterOptions
  | .array [] => some {}
  | .array (flag :: _) => ClusterOptions.mk <$> asFlag? flag
  | .table entries =>
    entries.foldlM (fun _ e =>
      if e.1 = "readFromReplicas" then ClusterOptions.mk <$> asFlag? e.2 else none) {}
  | _ => none

/-- A TOML value as each of the types that fields have. -/
def fieldReaders (v : Toml) : FieldReaders Option where
  texts := asTexts? v
  flag := asFlag? v
  text? := some <$> asText? v
  int64? := some <$> asInt64? v
  uint64? := some <$> asUInt64? v
  cluster? := some <$> asCluster? v

end Toml

namespace ConnectionSpec

/-- Reads one entry of a table of options. -/
def setEntry? (s : ConnectionSpec) (e : String × Toml) : Option ConnectionSpec :=
  (SpecField.ofName? e.1).bind (s.set e.2.fieldReaders)

/-- The options that a table holds. -/
def ofToml? (entries : List (String × Toml)) : Option ConnectionSpec := entries.foldlM setEntry? {}

end ConnectionSpec

end Tether
