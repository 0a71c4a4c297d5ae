import Tether.Proofs.Descriptor.Readers

namespace Tether

/-! # Tables of options read as JSON

An object of options is read in ascending order of its keys and a table in the order in which it was written, but the
order makes no difference (`ConnectionSpec.commutes_setMember?`). So a table and its JSON form are read alike but for
the entries whose values are not (`ConnectionSpec.ofMembers_toJson`):

* one that has no JSON form is lost, if its field may be left out;
* settings of a cluster with more than there is make the whole object unreadable.
-/

/-- The readers without the words for a refusal. -/
def FieldReaders.toOption {ε : Type} (r : FieldReaders (Except ε)) : FieldReaders Option where
  texts := r.texts.toOption
  flag := r.flag.toOption
  text? := r.text?.toOption
  int64? := r.int64?.toOption
  uint64? := r.uint64?.toOption
  cluster? := r.cluster?.toOption

namespace SpecField

/-- In JSON the field may be `null`. -/
def mayBeNull : SpecField → Bool
  | .addresses => false
  | .tls => false
  | _ => true

theorem name_of_ofName? {name : String} {field : SpecField} (h : ofName? name = some field) : field.name = name := by
  simpa using List.find?_some h

end SpecField

namespace ConnectionSpec

/-! ## One field -/

theorem toOption_set {ε : Type} (r : FieldReaders (Except ε)) (s : ConnectionSpec) (field : SpecField) :
    (s.set r field).toOption = s.set r.toOption field := by
  cases field <;> exact toOption_map _ _

/-- The options with one field as in others. -/
def withField (s t : ConnectionSpec) : SpecField → ConnectionSpec
  | .addresses => { s with addresses := t.addresses }
  | .masterName => { s with masterName := t.masterName }
  | .cluster => { s with cluster := t.cluster }
  | .username => { s with username := t.username }
  | .password => { s with password := t.password }
  | .database => { s with database := t.database }
  | .clientName => { s with clientName := t.clientName }
  | .tls => { s with tls := t.tls }
  | .sentinelUsername => { s with sentinelUsername := t.sentinelUsername }
  | .sentinelPassword => { s with sentinelPassword := t.sentinelPassword }
  | .dialTimeout => { s with dialTimeout := t.dialTimeout }
  | .responseTimeout => { s with responseTimeout := t.responseTimeout }

theorem withField_comm {f g : SpecField} (h : f ≠ g) (s t u : ConnectionSpec) :
    (s.withField t f).withField u g = (s.withField u g).withField t f := by
  cases f <;> cases g <;> first | exact absurd rfl h | rfl

/-- What a field is set to is told by its value alone. -/
theorem set_eq_map (r : FieldReaders Option) (s : ConnectionSpec) (field : SpecField) :
    s.set r field = (({} : ConnectionSpec).set r field).map fun t => s.withField t field := by
  cases field <;> simp only [set, Option.map_eq_map, Option.map_map] <;> rfl

/-- Two fields are set in either order. -/
theorem set_comm (r r' : FieldReaders Option) {f g : SpecField} (h : f ≠ g) (s : ConnectionSpec) :
    (s.set r f).bind (fun t => t.set r' g) = (s.set r' g).bind (fun t => t.set r f) := by
  have hset : ∀ (r : FieldReaders Option) (f : SpecField), (fun s : ConnectionSpec => s.set r f) =
      fun s => (({} : ConnectionSpec).set r f).map fun t => s.withField t f :=
    fun r f => funext fun s => set_eq_map r s f
  rw [hset r f, hset r' g, set_eq_map r s f, set_eq_map r' s g]
  cases ({} : ConnectionSpec).set r f with
  | none => cases ({} : ConnectionSpec).set r' g <;> rfl
  | some t =>
    cases ({} : ConnectionSpec).set r' g with
    | none => rfl
    | some u => exact congrArg some (withField_comm h s t u)

variable {v : Toml} {field : SpecField}

/-- A field is set alike, where its value is not lost and has no excess. -/
theorem set_toJson (hd : v.Distinct) (hlost : (field.mayBeNull && v.isSpecial) = false)
    (hexcess : (decide (field = .cluster) && v.hasExcess) = false) (s : ConnectionSpec) :
    s.set v.toJson.fieldReaders.toOption field = s.set v.fieldReaders field := by
  have hset : ∀ {α : Type} (f : α → ConnectionSpec) {a b : Option α}, a = b → f <$> a = f <$> b :=
    fun f => congrArg (f <$> ·)
  cases field with
  | addresses => exact hset _ v.asTexts_toJson
  | tls => exact hset _ v.asFlag_toJson
  | cluster => exact hset _ (Toml.asOptional_toJson (Toml.asCluster_toJson hd hexcess) hlost)
  | database => exact hset _ (Toml.asOptional_toJson v.asInt64_toJson hlost)
  | dialTimeout => exact hset _ (Toml.asOptional_toJson v.asUInt64_toJson hlost)
  | responseTimeout => exact hset _ (Toml.asOptional_toJson v.asUInt64_toJson hlost)
  | masterName => exact hset _ (Toml.asOptional_toJson v.asText_toJson hlost)
  | username => exact hset _ (Toml.asOptional_toJson v.asText_toJson hlost)
  | password => exact hset _ (Toml.asOptional_toJson v.asText_toJson hlost)
  | clientName => exact hset _ (Toml.asOptional_toJson v.asText_toJson hlost)
  | sentinelUsername => exact hset _ (Toml.asOptional_toJson v.asText_toJson hlost)
  | sentinelPassword => exact hset _ (Toml.asOptional_toJson v.asText_toJson hlost)

/-- A value that is lost sets nothing. -/
theorem set_toJson_of_isSpecial (hv : v.isSpecial = true) (hf : field.mayBeNull = true) :
    ({} : ConnectionSpec).set v.toJson.fieldReaders.toOption field = some {} := by
  rw [Toml.toJson_eq_null_iff.2 hv]
  cases field with
  | addresses => cases hf
  | tls => cases hf
  | _ => rfl

theorem set_of_isSpecial (hv : v.isSpecial = true) (s : ConnectionSpec) : s.set v.fieldReaders field = none := by
  rw [Toml.fieldReaders_of_isSpecial hv]
  cases field <;> rfl

theorem set_toJson_of_hasExcess (hv : v.hasExcess = true) (s : ConnectionSpec) :
    s.set v.toJson.fieldReaders.toOption .cluster = none := by
  have hnull : v.toJson ≠ .null := by
    intro h
    have hspecial := Toml.toJson_eq_null_iff.1 h
    rw [Toml.isSpecial_of_hasExcess hv] at hspecial
    cases hspecial
  have hread : (Json.asOptional Json.asCluster v.toJson).toOption = none := by
    rw [Toml.asOptional_of_ne_null _ hnull, toOption_map, Toml.asCluster_of_hasExcess hv]
    rfl
  show (fun c => { s with cluster := c }) <$> (Json.asOptional Json.asCluster v.toJson).toOption = none
  rw [hread]
  rfl

/-! ## One entry -/

/-- The entry has no JSON form, and its field may be left out. -/
def isLost (e : String × Toml) : Bool := (SpecField.ofName? e.1).any SpecField.mayBeNull && e.2.isSpecial

/-- The entry gives the settings of a cluster, and more. -/
def isExcessive (e : String × Toml) : Bool := decide (SpecField.ofName? e.1 = some .cluster) && e.2.hasExcess

/-- Reads one member of an object of options, without the words for a refusal. -/
def setMember? (s : ConnectionSpec) (m : String × Json) : Option ConnectionSpec :=
  (SpecField.ofName? m.1).bind (s.set m.2.fieldReaders.toOption)

theorem toOption_setMember (s : ConnectionSpec) (m : String × Json) : (s.setMember m).toOption = s.setMember? m := by
  unfold setMember setMember?
  cases SpecField.ofName? m.1 with
  | none => rfl
  | some field => exact toOption_set _ s field

theorem toOption_ofMembers (members : List (String × Json)) :
    (ofMembers members).toOption = members.foldlM setMember? {} := by
  rw [ofMembers, toOption_foldlM]
  congr 1
  exact funext fun s => funext fun m => toOption_setMember s m

/-- Members of different keys are read in either order. -/
theorem commutes_setMember? (x y : String × Json) (h : x.1 ≠ y.1) : Commutes setMember? x y := by
  intro s
  unfold setMember?
  cases hx : SpecField.ofName? x.1 with
  | none => cases hy : SpecField.ofName? y.1 <;> simp
  | some f =>
    cases hy : SpecField.ofName? y.1 with
    | none => simp
    | some g =>
      have hne : f ≠ g := by
        intro hfg
        rw [← SpecField.name_of_ofName? hx, ← SpecField.name_of_ofName? hy, hfg] at h
        exact h rfl
      exact set_comm _ _ hne s

variable {e : String × Toml}

theorem setMember?_toJson (hd : e.2.Distinct) (hl : isLost e = false) (he : isExcessive e = false) (s : ConnectionSpec) :
    s.setMember? (e.1, e.2.toJson) = s.setEntry? e := by
  unfold isLost at hl
  unfold isExcessive at he
  unfold setMember? setEntry?
  cases hf : SpecField.ofName? e.1 with
  | none => rfl
  | some field =>
    rw [hf, Option.any_some] at hl
    rw [hf] at he
    exact set_toJson hd hl (by simpa using he) s

theorem setMember?_of_isLost (h : isLost e = true) : ({} : ConnectionSpec).setMember? (e.1, e.2.toJson) = some {} := by
  unfold isLost at h
  unfold setMember?
  cases hf : SpecField.ofName? e.1 with
  | none => simp [hf] at h
  | some field =>
    rw [hf, Option.any_some, Bool.and_eq_true] at h
    exact set_toJson_of_isSpecial h.2 h.1

theorem setEntry?_of_isLost (h : isLost e = true) (s : ConnectionSpec) : s.setEntry? e = none := by
  unfold isLost at h
  rw [Bool.and_eq_true] at h
  unfold setEntry?
  cases SpecField.ofName? e.1 with
  | none => rfl
  | some field => exact set_of_isSpecial h.2 s

theorem setMember?_of_isExcessive (h : isExcessive e = true) (s : ConnectionSpec) :
    s.setMember? (e.1, e.2.toJson) = none := by
  unfold isExcessive at h
  rw [Bool.and_eq_true, decide_eq_true_eq] at h
  unfold setMember?
  rw [h.1]
  exact set_toJson_of_hasExcess h.2 s

/-- What has excess is there in JSON. -/
theorem isLost_of_isExcessive (h : isExcessive e = true) : isLost e = false := by
  unfold isExcessive at h
  rw [Bool.and_eq_true] at h
  rw [isLost, Toml.isSpecial_of_hasExcess h.2, Bool.and_false]

/-! ## A table -/

/-- The entries that JSON has a form for, or that must not be left out. -/
def kept (entries : List (String × Toml)) : List (String × Toml) := entries.filter fun e => !isLost e

/-- What is lost leaves the options as they are before anything is set. -/
theorem foldlM_lost (entries : List (String × Toml)) :
    (entries.filter isLost).foldlM (fun s e => setMember? s (e.1, e.2.toJson)) {} = some {} := by
  induction entries with
  | nil => rfl
  | cons e rest ih =>
    by_cases h : isLost e = true
    · rw [List.filter_cons_of_pos h, List.foldlM_cons, setMember?_of_isLost h]
      exact ih
    · rw [List.filter_cons_of_neg h]
      exact ih

/-- The JSON form of a table is read as the table without what is lost, unless it has excess. -/
theorem ofMembers_toJson {entries : List (String × Toml)} (hd : (Toml.table entries).Distinct) :
    ∃ sorted, (Toml.table entries).toJson = .object sorted ∧
      (ofMembers sorted).toOption = if entries.any isExcessive then none else ofToml? (kept entries) := by
  cases hd with
  | table hkeys hvalues =>
    have hkeys' : ((Toml.entriesToJson entries).map (·.1)).Nodup := Toml.keys_entriesToJson entries ▸ hkeys
    obtain ⟨sorted, hsorted, hperm⟩ := Json.perm_ofMembers hkeys'
    refine ⟨sorted, hsorted, ?_⟩
    -- what is lost may come first, as it sets nothing
    have horder : ((entries.filter isLost ++ kept entries).map fun e => (e.1, e.2.toJson)).Perm sorted := by
      have h := (List.filter_append_perm isLost entries).map fun e : String × Toml => (e.1, e.2.toJson)
      rw [← Toml.entriesToJson_eq_map entries] at h
      exact h.trans hperm.symm
    have hread : (ofMembers sorted).toOption = (kept entries).foldlM (fun s e => setMember? s (e.1, e.2.toJson)) {} := by
      calc (ofMembers sorted).toOption
        _ = sorted.foldlM setMember? {} := toOption_ofMembers sorted
        _ = ((entries.filter isLost ++ kept entries).map fun e => (e.1, e.2.toJson)).foldlM setMember? {} :=
          foldlM_perm_of_keys horder.symm ((hperm.map (·.1)).nodup_iff.2 hkeys') commutes_setMember? _
        _ = (kept entries).foldlM (fun s e => setMember? s (e.1, e.2.toJson)) {} := by
          rw [List.foldlM_map, List.foldlM_append, foldlM_lost]
          rfl
    rw [hread]
    split
    · next hany =>
      -- an entry with excess is not lost
      obtain ⟨e, he, hexcess⟩ := List.any_eq_true.1 hany
      have hkept : e ∈ kept entries := List.mem_filter.2 ⟨he, by rw [isLost_of_isExcessive hexcess, Bool.not_false]⟩
      exact foldlM_eq_none_of_mem hkept (setMember?_of_isExcessive hexcess) _
    · next hany =>
      -- every entry that is left is read alike
      refine foldlM_congr ?_ _
      intro e he s
      obtain ⟨hin, hl⟩ := List.mem_filter.1 he
      refine setMember?_toJson (hvalues e hin) (by simpa using hl) ?_ s
      exact Bool.eq_false_iff.2 fun hexcess => hany (List.any_eq_true.2 ⟨e, hin, hexcess⟩)

/-- A table is not read at all if an entry would be lost. -/
theorem ofToml?_eq (entries : List (String × Toml)) :
    ofToml? entries = if entries.any isLost then none else ofToml? (kept entries) := by
  split
  · next hany =>
    obtain ⟨e, he, hlost⟩ := List.any_eq_true.1 hany
    exact foldlM_eq_none_of_mem he (setEntry?_of_isLost hlost) _
  · next hany =>
    have hkept : kept entries = entries := by
      refine List.filter_eq_self.2 ?_
      intro e he
      have hl : isLost e = false := Bool.eq_false_iff.2 fun hlost => hany (List.any_eq_true.2 ⟨e, he, hlost⟩)
      simp [hl]
    rw [hkept]

end ConnectionSpec

/-- An object has the descriptor of the options that its members spell. -/
theorem Descriptor.toOption_ofJson_object (members : List (String × Json)) :
    (ofJson (.object members)).toOption =
      (ConnectionSpec.ofMembers members).toOption.bind fun spec => spec.toDescriptor.toOption := by
  rw [ofJson]
  cases ConnectionSpec.ofMembers members <;> rfl

end Tether
