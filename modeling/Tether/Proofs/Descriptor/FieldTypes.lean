import Tether.Proofs.Descriptor.Entries
import Tether.Proofs.Descriptor.New
import Tether.Proofs.Json.Ordered

namespace Tether

/-! # The types of fields

Each field of the options has one of six types, and each type says which JSON values spell which of its values
(`FieldType.Spells`). A value is read exactly as it is spelled (`FieldType.read_eq_ok_iff`), and to set a field is to
read its type and to leave the other fields alone (`ConnectionSpec.set_of_ok`).
-/

/-! ## Spelling -/

/-- The type of a field. The last four may be none. -/
inductive FieldType where
  | texts
  | flag
  | text?
  | int64?
  | uint64?
  | cluster?

/-- The settings of a cluster, or none, as JSON. -/
inductive ClusterOptions.Spells : Option ClusterOptions → Json → Prop where
  | null : Spells none .null
  | noMember : Spells (some {}) (.object [])
  | member (b : Bool) : Spells (some ⟨b⟩) (.object [(Json.clusterField, .bool b)])
  | noItem : Spells (some {}) (.array [])
  | item (b : Bool) : Spells (some ⟨b⟩) (.array [.bool b])

namespace FieldType

/-- The values of a type. -/
def Value : FieldType → Type
  | texts => List String
  | flag => Bool
  | text? => Option String
  | int64? => Option Int64
  | uint64? => Option UInt64
  | cluster? => Option ClusterOptions

/-- The value as JSON. -/
def Spells : (t : FieldType) → t.Value → Json → Prop
  | texts, v, j => j = .array (v.map .string)
  | flag, v, j => j = .bool v
  | text?, v, j => j = v.elim .null .string
  | int64?, v, j => j = v.elim .null fun n => .number (.int n.toInt)
  | uint64?, v, j => j = v.elim .null fun n => .number (.int n.toNat)
  | cluster?, v, j => ClusterOptions.Spells v j

/-- The reader for a type. -/
def read {m : Type → Type} (r : FieldReaders m) : (t : FieldType) → m t.Value
  | texts => r.texts
  | flag => r.flag
  | text? => r.text?
  | int64? => r.int64?
  | uint64? => r.uint64?
  | cluster? => r.cluster?

end FieldType

/-! ## Reading what is spelled -/

namespace Json

theorem map_eq_ok_iff {ε α β : Type} {f : α → β} {e : Except ε α} {b : β} :
    f <$> e = .ok b ↔ ∃ a, e = .ok a ∧ f a = b := by
  cases e with
  | error c => exact ⟨nofun, fun ⟨_, hno, _⟩ => nomatch hno⟩
  | ok a =>
    constructor
    · rintro ⟨⟩
      exact ⟨a, rfl, rfl⟩
    · rintro ⟨_, ⟨⟩, rfl⟩
      rfl

theorem asText_eq_ok_iff {j : Json} {s : String} : asText j = .ok s ↔ j = .string s := by
  cases j <;> simp [asText]

theorem asFlag_eq_ok_iff {j : Json} {b : Bool} : asFlag j = .ok b ↔ j = .bool b := by
  cases j <;> simp [asFlag]

theorem mapM_asText_eq_ok_iff {items : List Json} {texts : List String} :
    items.mapM asText = .ok texts ↔ items = texts.map .string := by
  induction items generalizing texts with
  | nil =>
    cases texts with
    | nil => exact ⟨fun _ => rfl, fun _ => rfl⟩
    | cons s rest => exact ⟨nofun, nofun⟩
  | cons j rest ih =>
    rw [List.mapM_cons]
    constructor
    · intro h
      obtain ⟨s, hs, h⟩ := exists_of_bind_eq_ok h
      obtain ⟨more, hmore, h⟩ := exists_of_bind_eq_ok h
      cases h
      rw [asText_eq_ok_iff.1 hs, ih.1 hmore, List.map_cons]
    · intro h
      cases texts with
      | nil => cases h
      | cons s more =>
        obtain ⟨rfl, hmore⟩ := List.cons.inj h
        rw [ih.2 hmore]
        rfl

theorem asTexts_eq_ok_iff {j : Json} {texts : List String} :
    asTexts j = .ok texts ↔ j = .array (texts.map .string) := by
  cases j with
  | array items => simp only [asTexts, mapM_asText_eq_ok_iff, array.injEq]
  | _ => simp [asTexts]

theorem asInt64_eq_ok_iff {j : Json} {n : Int64} : asInt64 j = .ok n ↔ j = .number (.int n.toInt) := by
  cases j with
  | number number =>
    cases number with
    | real x => simp [asInt64]
    | int i =>
      simp only [asInt64, number.injEq, JsonNumber.int.injEq]
      constructor
      · intro h
        split at h
        · next hrange =>
          cases h
          exact (Int64.toInt_ofInt_of_le hrange.1 (Int.lt_add_one_of_le hrange.2)).symm
        · cases h
      · rintro rfl
        rw [if_pos ⟨n.minValue_le_toInt, n.toInt_le⟩, Int64.ofInt_toInt]
  | _ => simp [asInt64]

theorem asUInt64_eq_ok_iff {j : Json} {n : UInt64} : asUInt64 j = .ok n ↔ j = .number (.int n.toNat) := by
  cases j with
  | number number =>
    cases number with
    | real x => simp [asUInt64]
    | int i =>
      simp only [asUInt64, number.injEq, JsonNumber.int.injEq]
      constructor
      · intro h
        split at h
        · next hrange =>
          cases h
          rw [UInt64.toNat_ofNat_of_lt' hrange.2, Int.toNat_of_nonneg hrange.1]
        · cases h
      · rintro rfl
        rw [if_pos ⟨Int.natCast_nonneg _, n.toNat_lt_size⟩, Int.toNat_natCast, UInt64.ofNat_toNat]
  | _ => simp [asUInt64]

theorem asCluster_eq_ok_iff {j : Json} (hj : j.Ordered) {o : ClusterOptions} :
    asCluster j = .ok o ↔ ClusterOptions.Spells (some o) j := by
  constructor
  · intro h
    match j, hj with
    | .array [], _ =>
      cases h
      exact .noItem
    | .array (flag :: more), _ =>
      obtain ⟨b, hb, h⟩ := exists_of_bind_eq_ok h
      split at h
      · next hmore =>
        cases h
        rw [asFlag_eq_ok_iff.1 hb, List.isEmpty_iff.1 hmore]
        exact .item b
      · cases h
    | .object [], _ =>
      cases h
      exact .noMember
    | .object [(key, flag)], _ =>
      obtain ⟨o', ho', h⟩ := exists_of_bind_eq_ok h
      cases h
      simp only at ho'
      split at ho'
      · next hkey =>
        obtain ⟨b, hb, rfl⟩ := map_eq_ok_iff.1 ho'
        rw [hkey, asFlag_eq_ok_iff.1 hb]
        exact .member b
      · cases ho'
    | .object (first :: next :: rest), .object hkeys _ =>
      -- one of the two is not the setting
      have hlt : first.1 < next.1 := (List.pairwise_cons.1 hkeys).1 next List.mem_cons_self
      obtain ⟨m, hm, hne⟩ : ∃ m ∈ first :: next :: rest, m.1 ≠ clusterField := by
        by_cases hfirst : first.1 = clusterField
        · exact ⟨next, by simp, fun hnext => hlt.ne (hfirst.trans hnext.symm)⟩
        · exact ⟨first, by simp, hfirst⟩
      have hfold := Toml.asCluster_object (first :: next :: rest)
      rw [h, foldlM_eq_none_of_mem hm fun _ => if_neg hne] at hfold
      cases hfold
    | .null, _ => cases h
    | .bool _, _ => cases h
    | .number _, _ => cases h
    | .string _, _ => cases h
  · intro h
    cases h with
    | noMember => rfl
    | member b => rfl
    | noItem => rfl
    | item b => rfl

/-- What may be none is spelled `null` where it is, and read where it is not. -/
theorem asOptional_eq_ok_iff {α : Type} {read : Json → Except Misfit α} {spells : Option α → Json → Prop} {j : Json}
    (hread : ∀ a, read j = .ok a ↔ spells (some a) j) (hnone : spells none j ↔ j = .null)
    (hsome : ∀ a, ¬spells (some a) .null) {v : Option α} : asOptional read j = .ok v ↔ spells v j := by
  by_cases hj : j = .null
  · subst hj
    cases v with
    | none => exact ⟨fun _ => hnone.2 rfl, fun _ => rfl⟩
    | some a => exact ⟨nofun, fun h => absurd h (hsome a)⟩
  · rw [Toml.asOptional_of_ne_null read hj, map_eq_ok_iff]
    constructor
    · rintro ⟨a, ha, rfl⟩
      exact (hread a).1 ha
    · intro h
      cases v with
      | none => exact absurd (hnone.1 h) hj
      | some a => exact ⟨a, (hread a).2 h, rfl⟩

end Json

namespace FieldType

/-- A value is read where it is spelled, and nowhere else. -/
theorem read_eq_ok_iff {j : Json} (hj : j.Ordered) (t : FieldType) (v : t.Value) :
    t.read j.fieldReaders = .ok v ↔ t.Spells v j := by
  cases t with
  | texts => exact Json.asTexts_eq_ok_iff
  | flag => exact Json.asFlag_eq_ok_iff
  | text? => exact Json.asOptional_eq_ok_iff (fun _ => Json.asText_eq_ok_iff) Iff.rfl nofun
  | int64? => exact Json.asOptional_eq_ok_iff (fun _ => Json.asInt64_eq_ok_iff) Iff.rfl nofun
  | uint64? => exact Json.asOptional_eq_ok_iff (fun _ => Json.asUInt64_eq_ok_iff) Iff.rfl nofun
  | cluster? =>
    refine Json.asOptional_eq_ok_iff (fun _ => Json.asCluster_eq_ok_iff hj) ?_ nofun
    constructor
    · rintro ⟨⟩
      rfl
    · rintro rfl
      exact .null

/-- No value is spelled as another is. -/
theorem eq_of_spells {j : Json} (hj : j.Ordered) {t : FieldType} {v v' : t.Value} (h : t.Spells v j)
    (h' : t.Spells v' j) : v = v' :=
  Except.ok.inj (((read_eq_ok_iff hj t v).2 h).symm.trans ((read_eq_ok_iff hj t v').2 h'))

end FieldType

/-! ## Setting a field -/

/-- The type of a field. -/
def SpecField.type : SpecField → FieldType
  | .addresses => .texts
  | .masterName => .text?
  | .cluster => .cluster?
  | .username => .text?
  | .password => .text?
  | .database => .int64?
  | .clientName => .text?
  | .tls => .flag
  | .sentinelUsername => .text?
  | .sentinelPassword => .text?
  | .dialTimeout => .uint64?
  | .responseTimeout => .uint64?

namespace ConnectionSpec

/-- The value of a field. -/
def value (s : ConnectionSpec) : (f : SpecField) → f.type.Value
  | .addresses => s.addresses
  | .masterName => s.masterName
  | .cluster => s.cluster
  | .username => s.username
  | .password => s.password
  | .database => s.database
  | .clientName => s.clientName
  | .tls => s.tls
  | .sentinelUsername => s.sentinelUsername
  | .sentinelPassword => s.sentinelPassword
  | .dialTimeout => s.dialTimeout
  | .responseTimeout => s.responseTimeout

/-- Options are their values. -/
theorem eq_of_value {s t : ConnectionSpec} (h : ∀ f, s.value f = t.value f) : s = t := by
  cases s
  cases t
  simp only [mk.injEq]
  exact ⟨h .addresses, h .masterName, h .cluster, h .username, h .password, h .database, h .clientName, h .tls,
    h .sentinelUsername, h .sentinelPassword, h .dialTimeout, h .responseTimeout⟩

variable {ε : Type} {r : FieldReaders (Except ε)} {f : SpecField}

theorem set_of_ok {v : f.type.Value} (h : f.type.read r = .ok v) (s : ConnectionSpec) :
    ∃ t, s.set r f = .ok t ∧ t.value f = v ∧ ∀ g, g ≠ f → t.value g = s.value g := by
  cases f
  all_goals
    refine ⟨_, congrArg (_ <$> ·) h, rfl, ?_⟩
    intro g hg
    cases g <;> first | rfl | exact absurd rfl hg

/-- What is wrong with a value does not depend on the other fields. -/
theorem set_of_error {cause : ε} (h : f.type.read r = .error cause) (s : ConnectionSpec) :
    s.set r f = .error cause := by
  cases f <;> exact congrArg (_ <$> ·) h

end ConnectionSpec

end Tether
