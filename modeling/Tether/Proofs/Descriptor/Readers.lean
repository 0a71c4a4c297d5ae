import Tether.Config
import Tether.Descriptor.OfToml
import Tether.Proofs.Json.Members
import Tether.Proofs.Toml.Table

namespace Tether

/-! # TOML values read as JSON

A TOML value and its JSON form are read alike as each of the types that fields have (`asText_toJson` to
`asCluster_toJson`), with two exceptions. A number that is not finite has no JSON form: it becomes `null`, which stands
for what is left out. And an array with the settings of a cluster may have more items than there are settings in TOML
only.
-/

namespace Toml

/-- A number that has no JSON form. -/
def isSpecial : Toml → Bool
  | .real x => !x.isFinite
  | _ => false

/-- An array that gives the settings of a cluster, and more. -/
def hasExcess : Toml → Bool
  | .array (.boolean _ :: _ :: _) => true
  | _ => false

theorem isSpecial_of_hasExcess {v : Toml} (h : v.hasExcess = true) : v.isSpecial = false := by
  cases v with
  | real x => cases h
  | _ => rfl

theorem itemsToJson_eq_map (items : List Toml) : itemsToJson items = items.map toJson := by
  induction items with
  | nil => rfl
  | cons v rest ih => rw [itemsToJson, ih, List.map_cons]

theorem entriesToJson_eq_map (entries : List (String × Toml)) :
    entriesToJson entries = entries.map fun e => (e.1, e.2.toJson) := by
  induction entries with
  | nil => rfl
  | cons e rest ih => rw [entriesToJson, ih, List.map_cons]

theorem keys_entriesToJson (entries : List (String × Toml)) :
    (entriesToJson entries).map (·.1) = entries.map (·.1) := by
  rw [entriesToJson_eq_map, List.map_map]
  rfl

theorem toJson_eq_null_iff {v : Toml} : v.toJson = .null ↔ v.isSpecial = true := by
  cases v with
  | real x => cases h : x.isFinite <;> simp [toJson, Json.ofBinary64, isSpecial, h]
  | _ => simp [toJson, isSpecial, Json.ofInt, Json.ofMembers]

/-- A number with a fraction is no value of any field. -/
theorem toJson_real (x : Binary64) : (Toml.real x).toJson = .number (.real x) ∨ (Toml.real x).toJson = .null := by
  cases h : x.isFinite <;> simp [toJson, Json.ofBinary64, h]

/-! ## Texts, truth values and numbers -/

theorem asText_toJson (v : Toml) : (Json.asText v.toJson).toOption = v.asText? := by
  cases v with
  | real x => rcases toJson_real x with h | h <;> rw [h] <;> rfl
  | _ => rfl

theorem asFlag_toJson (v : Toml) : (Json.asFlag v.toJson).toOption = v.asFlag? := by
  cases v with
  | real x => rcases toJson_real x with h | h <;> rw [h] <;> rfl
  | _ => rfl

theorem asTexts_toJson (v : Toml) : (Json.asTexts v.toJson).toOption = v.asTexts? := by
  cases v with
  | real x => rcases toJson_real x with h | h <;> rw [h] <;> rfl
  | array items =>
    -- one item after another
    have hitems : (fun item => (Json.asText (toJson item)).toOption) = asText? := funext asText_toJson
    rw [toJson, itemsToJson_eq_map, Json.asTexts, List.mapM_map, toOption_mapM, asTexts?, ← hitems]
    rfl
  | _ => rfl

theorem asInt64_toJson (v : Toml) : (Json.asInt64 v.toJson).toOption = v.asInt64? := by
  cases v with
  | real x => rcases toJson_real x with h | h <;> rw [h] <;> rfl
  | integer i =>
    have hrange : Int64.minValue.toInt ≤ i.toInt ∧ i.toInt ≤ Int64.maxValue.toInt := ⟨i.minValue_le_toInt, i.toInt_le⟩
    rw [toJson, Json.ofInt, Json.asInt64, if_pos hrange, Int64.ofInt_toInt]
    rfl
  | _ => rfl

/-- A number that is not negative is the same with a sign and without. -/
theorem toNat_toInt_of_nonneg {i : Int64} (h : 0 ≤ i.toInt) : i.toInt.toNat = i.toUInt64.toNat := by
  have hlt := i.toBitVec.isLt
  have hword : i.toUInt64.toNat = i.toBitVec.toNat := rfl
  have hint : i.toInt = if 2 * i.toBitVec.toNat < 2 ^ 64 then (i.toBitVec.toNat : Int) else i.toBitVec.toNat - 2 ^ 64 :=
    BitVec.toInt_eq_toNat_cond i.toBitVec
  rw [hword]
  split at hint
  · rw [hint, Int.toNat_natCast]
  · omega

theorem asUInt64_toJson (v : Toml) : (Json.asUInt64 v.toJson).toOption = v.asUInt64? := by
  cases v with
  | real x => rcases toJson_real x with h | h <;> rw [h] <;> rfl
  | integer i =>
    have hsign : 0 ≤ i ↔ 0 ≤ i.toInt := Int64.le_iff_toInt_le
    rw [toJson, Json.ofInt, Json.asUInt64, asUInt64?]
    by_cases h : 0 ≤ i.toInt
    · have hword := toNat_toInt_of_nonneg h
      have hrange : 0 ≤ i.toInt ∧ i.toInt.toNat < UInt64.size := ⟨h, hword ▸ i.toUInt64.toNat_lt_size⟩
      rw [if_pos hrange, if_pos (hsign.2 h), hword, UInt64.ofNat_toNat]
      rfl
    · rw [if_neg fun hr => h hr.1, if_neg fun hi => h (hsign.1 hi)]
      rfl
  | _ => rfl

/-! ## What may be left out -/

theorem asOptional_of_ne_null {α : Type} (read : Json → Except Json.Misfit α) {j : Json} (h : j ≠ .null) :
    Json.asOptional read j = some <$> read j := by
  cases j with
  | null => exact absurd rfl h
  | _ => rfl

/-- What may be left out is read alike where it is there. -/
theorem asOptional_toJson {α : Type} {read : Json → Except Json.Misfit α} {v : Toml} {a : Option α}
    (hread : (read v.toJson).toOption = a) (hv : v.isSpecial = false) :
    (Json.asOptional read v.toJson).toOption = some <$> a := by
  have hnull : v.toJson ≠ .null := by
    intro h
    rw [toJson_eq_null_iff.1 h] at hv
    cases hv
  rw [asOptional_of_ne_null read hnull, toOption_map, hread]

/-! ## Settings of a cluster -/

/-- Reads the one setting that there is; what came before does not count. -/
def readSetting {α : Type} (flag : α → Option Bool) (_ : ClusterOptions) (e : String × α) : Option ClusterOptions :=
  if e.1 = Json.clusterField then ClusterOptions.mk <$> flag e.2 else none

/-- Of two different keys one is not that of the setting. -/
theorem commutes_readSetting {α : Type} (flag : α → Option Bool) (x y : String × α) (h : x.1 ≠ y.1) :
    Commutes (readSetting flag) x y := by
  intro s
  by_cases hx : x.1 = Json.clusterField
  · have hy : y.1 ≠ Json.clusterField := fun hy => h (hx.trans hy.symm)
    simp [readSetting, hy]
  · simp [readSetting, hx]

theorem asCluster_object (members : List (String × Json)) :
    (Json.asCluster (.object members)).toOption =
      members.foldlM (readSetting fun j => (Json.asFlag j).toOption) {} := by
  rw [Json.asCluster, toOption_foldlM]
  congr 1
  funext s m
  unfold readSetting
  split
  · exact toOption_map ClusterOptions.mk (Json.asFlag m.2)
  · rfl

theorem asCluster?_table (entries : List (String × Toml)) :
    asCluster? (.table entries) = entries.foldlM (readSetting asFlag?) {} := rfl

/-- The settings of a cluster are read alike, unless there is more than them. -/
theorem asCluster_toJson {v : Toml} (hd : v.Distinct) (hv : v.hasExcess = false) :
    (Json.asCluster v.toJson).toOption = v.asCluster? := by
  cases v with
  | real x => rcases toJson_real x with h | h <;> rw [h] <;> rfl
  | array items =>
    cases items with
    | nil => rfl
    | cons flag more =>
      rw [toJson, itemsToJson, Json.asCluster, asCluster?, ← asFlag_toJson]
      cases more with
      | nil => cases Json.asFlag flag.toJson <;> rfl
      | cons next rest =>
        -- the first item is no truth value, and so nothing is read
        cases flag with
        | boolean b => cases hv
        | real x => rcases toJson_real x with h | h <;> rw [h] <;> rfl
        | _ => rfl
  | table entries =>
    cases hd with
    | table hkeys _ =>
      have hkeys' : ((entriesToJson entries).map (·.1)).Nodup := keys_entriesToJson entries ▸ hkeys
      obtain ⟨sorted, hsorted, hperm⟩ := Json.perm_ofMembers hkeys'
      have hflag : (fun v : Toml => (Json.asFlag v.toJson).toOption) = asFlag? := funext asFlag_toJson
      calc (Json.asCluster (Toml.table entries).toJson).toOption
        _ = sorted.foldlM (readSetting fun j => (Json.asFlag j).toOption) {} := by
          rw [toJson, hsorted, asCluster_object]
        _ = (entriesToJson entries).foldlM (readSetting fun j => (Json.asFlag j).toOption) {} :=
          (foldlM_perm_of_keys hperm.symm hkeys' (commutes_readSetting _) _).symm
        _ = entries.foldlM (readSetting fun v => (Json.asFlag v.toJson).toOption) {} := by
          rw [entriesToJson_eq_map, List.foldlM_map]
          rfl
        _ = (Toml.table entries).asCluster? := by rw [hflag, asCluster?_table]
  | _ => rfl

/-- Only TOML accepts more than the settings of a cluster. -/
theorem asCluster_of_hasExcess {v : Toml} (hv : v.hasExcess = true) : (Json.asCluster v.toJson).toOption = none := by
  unfold hasExcess at hv
  split at hv
  · rfl
  · cases hv

/-- What has no JSON form is no value of any field. -/
theorem fieldReaders_of_isSpecial {v : Toml} (hv : v.isSpecial = true) :
    v.fieldReaders = ⟨none, none, none, none, none, none⟩ := by
  cases v with
  | real x => rfl
  | _ => cases hv

end Toml

end Tether
