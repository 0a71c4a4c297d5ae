import Tether.Registry

namespace Tether

/-! # The entries of a registry

A registry that grew from the empty one has one entry for each fingerprint, and the entries number the created
handles in the order of their creation (`Registry.WellFormed`). So a handle belongs to one fingerprint only
(`Registry.WellFormed.probe_injective`), and entering adds at most one entry and keeps all others
(`Registry.keys_enter`, `Registry.probe_enter_of_eq_some`).
-/

namespace Registry

variable {H : Type}

/-- The fingerprints of the entries, in the order of entry. -/
def keys (r : Registry H) : List Fingerprint := r.entries.map (·.1)

/-- No fingerprint has two entries, and the entries number the created handles one after another. -/
structure WellFormed (r : Registry H) : Prop where
  entries_eq : r.entries = r.keys.zipIdx
  nodup : r.keys.Nodup
  length_handles : r.handles.length = r.keys.length

theorem wellFormed_empty : ({} : Registry H).WellFormed :=
  ⟨rfl, List.nodup_nil, rfl⟩

@[simp] theorem size_eq_length_keys (r : Registry H) : r.size = r.keys.length := by
  simp [size, keys]

theorem probe_eq_none_iff {r : Registry H} {f : Fingerprint} : r.probe f = none ↔ f ∉ r.keys := by
  simp only [probe, keys, List.lookup_eq_none_iff, List.mem_map, not_exists, not_and, bne_iff_ne]
  constructor
  · intro h p hp hf
    exact h p hp hf.symm
  · intro h p hp hf
    exact h p hp hf.symm

theorem mem_keys_of_probe_eq_some {r : Registry H} {f : Fingerprint} {id : HandleId} (h : r.probe f = some id) :
    f ∈ r.keys := by
  apply Decidable.byContradiction
  intro hn
  rw [probe_eq_none_iff.2 hn] at h
  cases h

theorem fingerprints_perm_keys (r : Registry H) : r.fingerprints.Perm r.keys := List.mergeSort_perm _ _

theorem mem_fingerprints {r : Registry H} {f : Fingerprint} : f ∈ r.fingerprints ↔ f ∈ r.keys :=
  r.fingerprints_perm_keys.mem_iff

namespace WellFormed

variable {r : Registry H}

theorem nodup_fingerprints (hr : r.WellFormed) : r.fingerprints.Nodup :=
  r.fingerprints_perm_keys.nodup_iff.2 hr.nodup

/-- The handle of a fingerprint is numbered by the place of the fingerprint. -/
theorem probe_eq_some_iff (hr : r.WellFormed) {f : Fingerprint} {id : HandleId} :
    r.probe f = some id ↔ r.keys[id]? = some f := by
  have hmem : ∀ {i : HandleId}, r.probe f = some i → r.keys[i]? = some f := by
    intro i hi
    obtain ⟨before, after, he, _⟩ := List.lookup_eq_some_iff.1 hi
    have hp : (f, i) ∈ r.keys.zipIdx := by
      rw [← hr.entries_eq, he]
      simp
    exact List.mk_mem_zipIdx_iff_getElem?.1 hp
  constructor
  · exact hmem
  · -- what is found for it stands in its place, and no other place has the fingerprint
    intro hid
    have hf : r.probe f ≠ none := fun hn => probe_eq_none_iff.1 hn (List.mem_of_getElem? hid)
    obtain ⟨i, hi⟩ := Option.ne_none_iff_exists'.1 hf
    have hlt : id < r.keys.length := (List.getElem?_eq_some_iff.1 hid).1
    have heq : id = i := (List.getElem?_inj hlt hr.nodup).1 (hid.trans (hmem hi).symm)
    rw [heq, hi]

/-- A handle belongs to one fingerprint only. -/
theorem probe_injective (hr : r.WellFormed) {f g : Fingerprint} {id : HandleId}
    (hf : r.probe f = some id) (hg : r.probe g = some id) : f = g := by
  have h := (hr.probe_eq_some_iff.1 hf).symm.trans (hr.probe_eq_some_iff.1 hg)
  exact Option.some.inj h

end WellFormed

/-! ## A handle that is used -/

@[simp] theorem probe_update (r : Registry H) (id : HandleId) (h : H) : (r.update id h).probe = r.probe := rfl

@[simp] theorem created_update (r : Registry H) (id : HandleId) (h : H) : (r.update id h).created = r.created :=
  List.length_set

theorem WellFormed.update {r : Registry H} (hr : r.WellFormed) (id : HandleId) (h : H) : (r.update id h).WellFormed where
  entries_eq := hr.entries_eq
  nodup := hr.nodup
  length_handles := (r.created_update id h).trans hr.length_handles

/-! ## Entering -/

variable (create : Descriptor → H)

@[simp] theorem keys_insert (r : Registry H) (d : Descriptor) :
    (r.insert create d).keys = r.keys ++ [d.fingerprint] := by
  simp [keys, insert]

theorem enter_of_eq_some {r : Registry H} {d : Descriptor} {id : HandleId} (h : r.probe d.fingerprint = some id) :
    r.enter create d = ⟨r, id, [.overtaken d.fingerprint]⟩ := by
  simp [enter, h]

theorem enter_of_eq_none {r : Registry H} {d : Descriptor} (h : r.probe d.fingerprint = none) :
    r.enter create d = ⟨r.insert create d, r.created, [.creating d.fingerprint d.mode d.addresses]⟩ := by
  simp [enter, h, created]

theorem getOrCreate_of_eq_some {r : Registry H} {d : Descriptor} {id : HandleId}
    (h : r.probe d.fingerprint = some id) : r.getOrCreate create d = ⟨r, id, [.reusing d.fingerprint]⟩ := by
  simp [getOrCreate, h]

theorem probe_getOrCreate_self (r : Registry H) (d : Descriptor) :
    (r.getOrCreate create d).registry.probe d.fingerprint = some (r.getOrCreate create d).handle := by
  rw [(getOrCreate_eq_enter r create d).1, (getOrCreate_eq_enter r create d).2]
  exact probe_enter_self r create d

/-- The second of two calls for one fingerprint gets the handle of the first. -/
theorem getOrCreate_getOrCreate (r : Registry H) {d e : Descriptor} (h : d.fingerprint = e.fingerprint) :
    (r.getOrCreate create d).registry.getOrCreate create e =
      ⟨(r.getOrCreate create d).registry, (r.getOrCreate create d).handle, [.reusing e.fingerprint]⟩ := by
  apply getOrCreate_of_eq_some
  rw [← h]
  exact probe_getOrCreate_self create r d

/-- Entering adds the fingerprint where it is new, and nothing else. -/
theorem keys_enter (r : Registry H) (d : Descriptor) :
    (r.enter create d).registry.keys = if d.fingerprint ∈ r.keys then r.keys else r.keys ++ [d.fingerprint] := by
  cases h : r.probe d.fingerprint with
  | none =>
    rw [enter_of_eq_none create h, if_neg (probe_eq_none_iff.1 h)]
    exact keys_insert create r d
  | some id =>
    rw [enter_of_eq_some create h, if_pos (mem_keys_of_probe_eq_some h)]

theorem WellFormed.insert {r : Registry H} (hr : r.WellFormed) {d : Descriptor}
    (h : r.probe d.fingerprint = none) : (r.insert create d).WellFormed where
  entries_eq := by
    have hz : (r.keys ++ [d.fingerprint]).zipIdx = r.keys.zipIdx ++ [(d.fingerprint, r.keys.length)] := by
      simp [List.zipIdx_append]
    rw [keys_insert, hz, ← hr.entries_eq, ← hr.length_handles]
    rfl
  nodup := by
    rw [keys_insert, List.nodup_append]
    -- the fingerprint that comes in was not there
    refine ⟨hr.nodup, by simp, ?_⟩
    intro f hf g hg hfg
    rw [List.mem_singleton.1 hg] at hfg
    exact probe_eq_none_iff.1 h (hfg ▸ hf)
  length_handles := by
    rw [keys_insert, List.length_append, ← hr.length_handles]
    simp [Registry.insert]

theorem WellFormed.enter {r : Registry H} (hr : r.WellFormed) (d : Descriptor) :
    (r.enter create d).registry.WellFormed := by
  cases h : r.probe d.fingerprint with
  | none =>
    rw [enter_of_eq_none create h]
    exact hr.insert create h
  | some id =>
    rw [enter_of_eq_some create h]
    exact hr

theorem WellFormed.getOrCreate {r : Registry H} (hr : r.WellFormed) (d : Descriptor) :
    (r.getOrCreate create d).registry.WellFormed := by
  rw [(getOrCreate_eq_enter r create d).1]
  exact hr.enter create d

theorem mem_keys_getOrCreate {r : Registry H} {d : Descriptor} {f : Fingerprint} :
    f ∈ (r.getOrCreate create d).registry.keys ↔ f ∈ r.keys ∨ f = d.fingerprint := by
  rw [(getOrCreate_eq_enter r create d).1, keys_enter]
  split
  · next hd =>
    constructor
    · exact Or.inl
    · rintro (hf | rfl)
      · exact hf
      · exact hd
  · rw [List.mem_append, List.mem_singleton]

/-- An entry that is there stays as it is. -/
theorem probe_enter_of_eq_some {r : Registry H} {f : Fingerprint} {id : HandleId} (h : r.probe f = some id)
    (d : Descriptor) : (r.enter create d).registry.probe f = some id := by
  cases hd : r.probe d.fingerprint with
  | none =>
    rw [enter_of_eq_none create hd, probe_insert, h]
    rfl
  | some i =>
    rw [enter_of_eq_some create hd]
    exact h

/-- Entering only adds at the end. -/
theorem entries_prefix_enter (r : Registry H) (d : Descriptor) :
    r.entries <+: (r.enter create d).registry.entries := by
  cases h : r.probe d.fingerprint with
  | none =>
    rw [enter_of_eq_none create h]
    exact List.prefix_append _ _
  | some id =>
    simp [enter_of_eq_some create h]

theorem handles_prefix_enter (r : Registry H) (d : Descriptor) :
    r.handles <+: (r.enter create d).registry.handles := by
  cases h : r.probe d.fingerprint with
  | none =>
    rw [enter_of_eq_none create h]
    exact List.prefix_append _ _
  | some id =>
    simp [enter_of_eq_some create h]

end Registry

end Tether
