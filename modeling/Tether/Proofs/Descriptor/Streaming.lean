import Tether.Proofs.Descriptor.Entries
import Tether.Proofs.Descriptor.FieldText

namespace Tether

/-! # Options from JSON text, with a tree and without

An object of options can be read off its text at once (`ConnectionSpec.ofJsonText`), member after member as they are
written, or the text is parsed first and the members are then read in ascending order of their keys
(`Descriptor.ofJson`). The two differ in what they say of a text that they refuse, and on a key that is there twice:
the one refuses it, and to the other the last one counts. Where no key is there twice they give the same descriptors
(`Descriptor.ofJsonText_iff_ofJson`).
-/

namespace Json

/-- A value as it is written as each of the types that fields have. -/
def writtenReaders (j : Json) : FieldReaders Option where
  texts := (asTexts j).toOption
  flag := (asFlag j).toOption
  text? := optional? (fun j => (asText j).toOption) j
  int64? := optional? (fun j => (asInt64 j).toOption) j
  uint64? := optional? (fun j => (asUInt64 j).toOption) j
  cluster? := optional? asClusterOnce j

/-! ## Members in order are read alike -/

theorem asText_sorted (j : Json) : (asText j.sorted).toOption = (asText j).toOption := by
  cases j <;> rfl

theorem asFlag_sorted (j : Json) : (asFlag j.sorted).toOption = (asFlag j).toOption := by
  cases j <;> rfl

theorem asInt64_sorted (j : Json) : (asInt64 j.sorted).toOption = (asInt64 j).toOption := by
  cases j <;> rfl

theorem asUInt64_sorted (j : Json) : (asUInt64 j.sorted).toOption = (asUInt64 j).toOption := by
  cases j <;> rfl

theorem asTexts_sorted (j : Json) : (asTexts j.sorted).toOption = (asTexts j).toOption := by
  cases j with
  | array items =>
    have hitem : (fun j : Json => (asText j.sorted).toOption) = fun j => (asText j).toOption := funext asText_sorted
    rw [sorted, sortedItems_eq_map, asTexts, asTexts, List.mapM_map, toOption_mapM, toOption_mapM]
    exact congrArg (items.mapM ·) hitem
  | _ => rfl

theorem optional?_sorted {α : Type} {make make' : Json → Option α} {j : Json} (h : make j.sorted = make' j) :
    optional? make j.sorted = optional? make' j := by
  cases j with
  | null => rfl
  | _ => exact congrArg (Option.map some) h

/-- Where no key is there twice there is at most one setting. -/
theorem foldlM_addSetting {members : List (String × Json)} (hkeys : (members.map (·.1)).Nodup) :
    (members.foldlM addSetting []).map (fun flags => (⟨flags.headD false⟩ : ClusterOptions)) =
      members.foldlM (Toml.readSetting fun j => (asFlag j).toOption) {} := by
  match members with
  | [] => rfl
  | [m] =>
    simp only [List.foldlM_cons, List.foldlM_nil, addSetting, Toml.readSetting]
    by_cases hm : m.1 = clusterField
    · cases (asFlag m.2).toOption <;> simp [hm]
    · simp [hm]
  | m :: next :: rest =>
    -- one of the two is not the setting
    have hother : ∃ e ∈ m :: next :: rest, e.1 ≠ clusterField := by
      by_cases hm : m.1 = clusterField
      · refine ⟨next, by simp, ?_⟩
        intro hnext
        simp [hm, hnext] at hkeys
      · exact ⟨m, by simp, hm⟩
    obtain ⟨e, he, hne⟩ := hother
    have hflags : (m :: next :: rest).foldlM addSetting [] = none :=
      foldlM_eq_none_of_mem he (fun _ => if_neg fun h => hne h.1) []
    rw [hflags, foldlM_eq_none_of_mem he fun _ => if_neg hne]
    rfl

theorem asCluster_array (items : List Json) :
    (asCluster (.array (items.map sorted))).toOption = asClusterOnce (.array items) := by
  have hfirst : ∀ j, addFlag [] j = (asFlag j.sorted).toOption.map ([·]) := fun j => asFlag_sorted j ▸ rfl
  match items with
  | [] => rfl
  | [j] =>
    rw [List.map_cons, asCluster, asClusterOnce, List.foldlM_cons, hfirst]
    cases asFlag j.sorted <;> rfl
  | j :: next :: rest =>
    rw [List.map_cons, asCluster, asClusterOnce, List.foldlM_cons, hfirst]
    cases asFlag j.sorted <;> rfl

theorem asClusterOnce_of_distinct {j : Json} (hd : j.Distinct) : (asCluster j.sorted).toOption = asClusterOnce j := by
  cases hd with
  | array _ =>
    rw [sorted, sortedItems_eq_map]
    exact asCluster_array _
  | @object members hkeys h =>
    have hkeys' : ((sortedMembers members).map (·.1)).Nodup := keys_sortedMembers members ▸ hkeys
    obtain ⟨inOrder, hsorted, hperm⟩ := perm_ofMembers hkeys'
    have hflag : (fun j : Json => (asFlag j.sorted).toOption) = fun j => (asFlag j).toOption := funext asFlag_sorted
    calc (asCluster (Json.object members).sorted).toOption
      _ = inOrder.foldlM (Toml.readSetting fun j => (asFlag j).toOption) {} := by
        rw [sorted, hsorted, Toml.asCluster_object]
      _ = (sortedMembers members).foldlM (Toml.readSetting fun j => (asFlag j).toOption) {} :=
        (foldlM_perm_of_keys hperm.symm hkeys' (Toml.commutes_readSetting _) _).symm
      _ = members.foldlM (Toml.readSetting fun j => (asFlag j.sorted).toOption) {} := by
        rw [sortedMembers_eq_map, List.foldlM_map]
        rfl
      _ = asClusterOnce (.object members) := by
        rw [hflag, asClusterOnce, foldlM_addSetting hkeys]
  | _ => rfl

theorem writtenReaders_of_distinct {j : Json} (hd : j.Distinct) :
    j.sorted.fieldReaders.toOption = j.writtenReaders := by
  unfold fieldReaders writtenReaders FieldReaders.toOption
  simp only [toOption_asOptional, FieldReaders.mk.injEq]
  exact ⟨asTexts_sorted j, asFlag_sorted j, optional?_sorted (asText_sorted j), optional?_sorted (asInt64_sorted j),
    optional?_sorted (asUInt64_sorted j), optional?_sorted (asClusterOnce_of_distinct hd)⟩

end Json

namespace ConnectionSpec

open Json

/-! ## Fields -/

/-- Sets the field of a member as it is written, which must not be among those seen. -/
def setOnce (state : ConnectionSpec × List SpecField) (m : String × Json) : Option (ConnectionSpec × List SpecField) :=
  ((SpecField.ofName? m.1).filter (!state.2.contains ·)).bind fun field =>
    (state.1.set m.2.writtenReaders field).map (·, field :: state.2)

variable {depth : Nat}

theorem follows_set (s : ConnectionSpec) (field : SpecField) :
    Follows (s.set textReaders field) (readValueBy .object (depth + 1)) fun j => s.set j.writtenReaders field := by
  cases field with
  | addresses => exact follows_readTexts.map _
  | tls => exact follows_readFlag.map _
  | cluster => exact (follows_readOptional follows_readCluster).map _
  | database => exact (follows_readOptional follows_readInt64).map _
  | dialTimeout => exact (follows_readOptional follows_readUInt64).map _
  | responseTimeout => exact (follows_readOptional follows_readUInt64).map _
  | masterName => exact (follows_readOptional follows_readText).map _
  | username => exact (follows_readOptional follows_readText).map _
  | password => exact (follows_readOptional follows_readText).map _
  | clientName => exact (follows_readOptional follows_readText).map _
  | sentinelUsername => exact (follows_readOptional follows_readText).map _
  | sentinelPassword => exact (follows_readOptional follows_readText).map _

theorem follows_readMember (state : ConnectionSpec × List SpecField) :
    Follows (readMember state) (readEntry (readValueBy .object (depth + 1))) (setOnce state) := by
  have hset : ∀ field, Follows ((·, field :: state.2) <$> state.1.set textReaders field) (readValueBy .object (depth + 1))
      fun j => (state.1.set j.writtenReaders field).map (·, field :: state.2) := fun field => (follows_set _ field).map _
  exact follows_readField hset

/-! ## Members -/

/-- Where no key is there twice no field is. -/
theorem foldlM_setOnce {members : List (String × Json)} (hkeys : (members.map (·.1)).Nodup) :
    ∀ (s : ConnectionSpec) (seen : List SpecField), (∀ m ∈ members, ∀ field ∈ seen, field.name ≠ m.1) →
      (members.foldlM setOnce (s, seen)).map (·.1) =
        members.foldlM (fun s m => (SpecField.ofName? m.1).bind (s.set m.2.writtenReaders)) s := by
  induction members with
  | nil => exact fun _ _ _ => rfl
  | cons m rest ih =>
    intro s seen hseen
    rw [List.map_cons, List.nodup_cons] at hkeys
    rw [List.foldlM_cons, List.foldlM_cons, setOnce]
    cases hfield : SpecField.ofName? m.1 with
    | none => rfl
    | some field =>
      have hname := SpecField.name_of_ofName? hfield
      have hnew : seen.contains field = false := by
        refine Bool.eq_false_iff.2 fun hin => ?_
        exact hseen m List.mem_cons_self field (List.contains_iff_mem.1 hin) hname
      simp only [Option.filter_some, hnew, Bool.not_false, if_true, Option.bind_some]
      cases s.set m.2.writtenReaders field with
      | none => rfl
      | some t =>
        refine ih hkeys.2 t (field :: seen) ?_
        intro m' hm' f hf
        rcases List.mem_cons.1 hf with rfl | hf
        · rw [hname]
          exact fun heq => hkeys.1 (heq ▸ List.mem_map_of_mem hm')
        · exact hseen m' (List.mem_cons_of_mem m hm') f hf

theorem readFrom_object (object : List (String × Json) → Json) (depth : Nat) :
    readFrom object (depth + 1) '\x7b' = object <$> readList '\x7d' (readEntry (readValueBy object depth)) := by
  rw [readFrom, if_neg (by decide), if_pos rfl]
  rfl

/-- The options that an object spells are those of its members as they are written, each field once. -/
theorem toOption_ofJsonText {text : String} (h : (skipBlanks text.toList).head? = some '\x7b') :
    (ofJsonText text).toOption = (written text).toOption.bind fun j =>
      match j with
      | .object members => (members.foldlM setOnce ({}, [])).map (·.1)
      | _ => none := by
  obtain ⟨rest, hrest⟩ := List.head?_eq_some_iff.1 h
  have hmembers : Follows (readSequence '\x7d' readMember ({}, []))
      (readList '\x7d' (readEntry (readValueBy .object 126)))
      fun members => members.foldlM setOnce ({}, []) := follows_readSequence follows_readMember _
  have hread : run? read text.toList = through (fun members => (members.foldlM setOnce ({}, [])).map (·.1))
      (run? (readList '\x7d' (readEntry (readValueBy .object 126))) rest) := by
    rw [← hmembers.map (·.1) rest]
    unfold read
    rw [run?_bind, run?_nextChar, hrest]
    rfl
  have hwritten : run? (readValueBy .object maxDepth) text.toList =
      (run? (readList '\x7d' (readEntry (readValueBy .object 126))) rest).map fun p => (.object p.1, p.2) := by
    rw [run?_readValueBy, hrest]
    show run? (readFrom .object (126 + 1) '\x7b') rest = _
    rw [readFrom_object, run?_map]
  have hspec : (ofJsonText text).toOption = (run? read text.toList).bind fun p =>
      (readEnd p.2).toOption.map fun _ => p.1 := toOption_whole read text.toList
  rw [hspec, hread, written, toOption_parseBy, hwritten]
  unfold through
  cases run? (readList '\x7d' (readEntry (readValueBy .object 126))) rest with
  | none => rfl
  | some p =>
    cases hfields : p.1.foldlM setOnce ({}, []) <;> cases hend : (readEnd p.2).toOption <;> simp [hfields, hend]

theorem ofMembers_of_distinct {members : List (String × Json)} (hd : (Json.object members).Distinct) :
    ∃ inOrder, (Json.object members).sorted = .object inOrder ∧
      (ofMembers inOrder).toOption = (members.foldlM setOnce ({}, [])).map (·.1) := by
  cases hd with
  | object hkeys hvalues =>
    have hkeys' : ((sortedMembers members).map (·.1)).Nodup := keys_sortedMembers members ▸ hkeys
    obtain ⟨inOrder, hsorted, hperm⟩ := perm_ofMembers hkeys'
    refine ⟨inOrder, hsorted, ?_⟩
    calc (ofMembers inOrder).toOption
      _ = inOrder.foldlM setMember? {} := toOption_ofMembers inOrder
      _ = (sortedMembers members).foldlM setMember? {} :=
        (foldlM_perm_of_keys hperm.symm hkeys' commutes_setMember? _).symm
      _ = members.foldlM (fun s m => setMember? s (m.1, m.2.sorted)) {} := by
        rw [sortedMembers_eq_map, List.foldlM_map]
      _ = members.foldlM (fun s m => (SpecField.ofName? m.1).bind (s.set m.2.writtenReaders)) {} := by
        refine foldlM_congr ?_ _
        intro m hm s
        unfold setMember?
        rw [writtenReaders_of_distinct (hvalues m hm)]
      _ = (members.foldlM setOnce ({}, [])).map (·.1) := (foldlM_setOnce hkeys {} [] (by simp)).symm

end ConnectionSpec

/-- Where a text is an object and no key is in an object of it twice, options that are read off it at once and options
that are read off its value have the same descriptor, or both have none. -/
theorem Descriptor.ofJsonText_iff_ofJson {text : String} (hobject : (Json.skipBlanks text.toList).head? = some '\x7b')
    (hkeys : ∀ j, Json.written text = .ok j → j.Distinct) (d : Descriptor) :
    (∃ spec, ConnectionSpec.ofJsonText text = .ok spec ∧ spec.toDescriptor = .ok d) ↔
      ∃ j, Json.parse text = .ok j ∧ ofJson j = .ok d := by
  rw [exists_ok_iff, exists_ok_iff, ConnectionSpec.toOption_ofJsonText hobject, Json.parse_eq_sorted]
  cases hwritten : Json.written text with
  | error fault => exact Iff.rfl
  | ok j =>
    obtain ⟨members, rfl⟩ := Json.exists_object_of_written hobject hwritten
    obtain ⟨inOrder, hsorted, hread⟩ := ConnectionSpec.ofMembers_of_distinct (hkeys _ hwritten)
    have htree : (ofJson (Json.object members).sorted).toOption =
        ((members.foldlM ConnectionSpec.setOnce ({}, [])).map (·.1)).bind fun spec => spec.toDescriptor.toOption := by
      rw [hsorted, toOption_ofJson_object, hread]
    exact Eq.congr_left htree.symm

/-- An array for the settings of a cluster, an escape in a key and `null` are read alike. -/
theorem Descriptor.reads_escaped_key_alike :
    ∃ d, d.addresses = ["a:1"] ∧ d.mode = .cluster { readFromReplicas := true } ∧
      (∃ spec, ConnectionSpec.ofJsonText
        "\x7b\"cluster\": [true], \"\\u0061ddresses\": [\"a:1\"], \"database\": null\x7d" = .ok spec ∧
        spec.toDescriptor = .ok d) ∧
      ∃ j, Json.parse
        "\x7b\"cluster\": [true], \"\\u0061ddresses\": [\"a:1\"], \"database\": null\x7d" = .ok j ∧
        ofJson j = .ok d := by
  have hread : (((ConnectionSpec.ofJsonText
      "\x7b\"cluster\": [true], \"\\u0061ddresses\": [\"a:1\"], \"database\": null\x7d").toOption.bind
        fun spec => spec.toDescriptor.toOption).map fun d => (d.addresses, d.mode)) =
      some (["a:1"], .cluster { readFromReplicas := true }) := by decide +kernel
  have hdistinct : (Json.written
      "\x7b\"cluster\": [true], \"\\u0061ddresses\": [\"a:1\"], \"database\": null\x7d").toOption.all
        Json.isDistinct = true := by decide +kernel
  obtain ⟨d, hd, hparts⟩ := Option.map_eq_some_iff.1 hread
  obtain ⟨haddresses, hmode⟩ := Prod.mk.inj hparts
  have hstream := exists_ok_iff.2 hd
  refine ⟨d, haddresses, hmode, hstream, (ofJsonText_iff_ofJson (by decide +kernel) ?_ d).1 hstream⟩
  intro j hj
  rw [hj] at hdistinct
  exact Json.distinct_of_isDistinct j hdistinct

end Tether
