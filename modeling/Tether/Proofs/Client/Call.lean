import Tether.Client
import Tether.Proofs.Registry.Entries

namespace Tether

/-! # What a client's operation does

An operation gives the client its handle, which is the registry's entry for the client's fingerprint, and then changes
no more than the handles: binding is what finds and creates (`Client.bind_of_eq_none`), and running a command on a
handle leaves the entries alone (`Client.queryHandle_eq`).
-/

namespace Client

variable {H σ : Type} {c : Client}

theorem bind_of_eq_some {id : HandleId} (h : c.handle = some id) (r : Registry H) (create : Descriptor → H) :
    c.bind r create = ⟨c, r, id, []⟩ := by
  simp [bind, h]

theorem bind_of_eq_none (h : c.handle = none) (r : Registry H) (create : Descriptor → H) :
    c.bind r create = ⟨{ c with handle := some (r.getOrCreate create c.descriptor).handle },
      (r.getOrCreate create c.descriptor).registry, (r.getOrCreate create c.descriptor).handle,
      (r.getOrCreate create c.descriptor).events ++ [.bound c.fingerprint c.descriptor.mode]⟩ := by
  simp [bind, h]

/-- A client that was just made has no handle. -/
theorem handle_ofArguments {arguments : List Json} (h : ofArguments arguments = .ok c) : c.handle = none := by
  unfold ofArguments at h
  split at h
  · split at h
    · cases h
      rfl
    · cases h
  · cases h

/-- An address alone makes a client. -/
theorem exists_ofArguments_address : ∃ c, ofArguments [.string "redis://a:1"] = .ok c := by
  have hok : (Descriptor.ofUrl "redis://a:1").toOption.isSome = true := by decide +kernel
  cases hd : Descriptor.ofUrl "redis://a:1" with
  | error e => simp [hd, Except.toOption] at hok
  | ok d =>
    refine ⟨{ descriptor := d }, ?_⟩
    rw [ofArguments, Descriptor.ofJson, hd]

/-- Running a command changes one handle, if it is there, and the world. -/
theorem queryHandle_eq (kind : HandleKind H σ) (id : HandleId) (command : Command) (r : Registry H) (w : σ) :
    (queryHandle kind id command r w).2.1 = r ∨ ∃ h, (queryHandle kind id command r w).2.1 = r.update id h := by
  unfold queryHandle
  cases r.handle? id with
  | none => exact Or.inl rfl
  | some h => exact Or.inr ⟨_, rfl⟩

@[simp] theorem entries_queryHandle (kind : HandleKind H σ) (id : HandleId) (command : Command) (r : Registry H)
    (w : σ) : (queryHandle kind id command r w).2.1.entries = r.entries := by
  rcases queryHandle_eq kind id command r w with hr | ⟨h, hr⟩
  · rw [hr]
  · rw [hr, Registry.update]

@[simp] theorem keys_queryHandle (kind : HandleKind H σ) (id : HandleId) (command : Command) (r : Registry H) (w : σ) :
    (queryHandle kind id command r w).2.1.keys = r.keys := by
  rw [Registry.keys, entries_queryHandle, Registry.keys]

@[simp] theorem created_queryHandle (kind : HandleKind H σ) (id : HandleId) (command : Command) (r : Registry H)
    (w : σ) : (queryHandle kind id command r w).2.1.created = r.created := by
  rcases queryHandle_eq kind id command r w with hr | ⟨h, hr⟩
  · rw [hr]
  · rw [hr, Registry.created_update]

theorem wellFormed_queryHandle (kind : HandleKind H σ) (id : HandleId) (command : Command) {r : Registry H}
    (hr : r.WellFormed) (w : σ) : (queryHandle kind id command r w).2.1.WellFormed := by
  rcases queryHandle_eq kind id command r w with hq | ⟨h, hq⟩
  · rw [hq]
    exact hr
  · rw [hq]
    exact hr.update id h

/-! ## The whole operation -/

theorem descriptor_bind (r : Registry H) (create : Descriptor → H) :
    (c.bind r create).client.descriptor = c.descriptor := by
  cases h : c.handle with
  | some id => rw [bind_of_eq_some h]
  | none => rw [bind_of_eq_none h]

theorem handle_bind (r : Registry H) (create : Descriptor → H) :
    (c.bind r create).client.handle = some (c.bind r create).handle := by
  cases h : c.handle with
  | some id => rw [bind_of_eq_some h, h]
  | none => rw [bind_of_eq_none h]

theorem wellFormed_bind {r : Registry H} (hr : r.WellFormed) (create : Descriptor → H) :
    (c.bind r create).registry.WellFormed := by
  cases h : c.handle with
  | some id =>
    rw [bind_of_eq_some h]
    exact hr
  | none =>
    rw [bind_of_eq_none h]
    exact hr.getOrCreate create c.descriptor

/-- A client that is bound has its fingerprint in the registry, if that is so for one that was bound before. -/
theorem mem_keys_bind {r : Registry H} (hc : c.handle.isSome = true → c.fingerprint ∈ r.keys) (create : Descriptor → H)
    {f : Fingerprint} : f ∈ (c.bind r create).registry.keys ↔ f ∈ r.keys ∨ f = c.fingerprint := by
  cases h : c.handle with
  | some id =>
    rw [bind_of_eq_some h]
    constructor
    · exact Or.inl
    · rintro (hf | rfl)
      · exact hf
      · exact hc (by rw [h]; rfl)
  | none =>
    rw [bind_of_eq_none h]
    exact Registry.mem_keys_getOrCreate create

variable (kind : HandleKind H σ) (r : Registry H) (w : σ) (k : Call)

theorem client_call : (c.call kind r w k).client = (c.bind r kind.create).client := rfl

theorem keys_call : (c.call kind r w k).registry.keys = (c.bind r kind.create).registry.keys :=
  keys_queryHandle kind _ _ _ w

/-- The first operation in an empty registry is one command on a new handle. -/
theorem world_call_empty (hc : c.handle = none) :
    (c.call kind {} w k).world = (kind.query k.command (kind.create c.descriptor) w).2.2 := by
  have hprobe : ({} : Registry H).probe c.descriptor.fingerprint = none := rfl
  have hcreated : ({} : Registry H).created = 0 := rfl
  rw [call, bind_of_eq_none hc, Registry.getOrCreate, hprobe, Registry.enter_of_eq_none kind.create hprobe, hcreated]
  rfl

theorem wellFormed_call {r : Registry H} (hr : r.WellFormed) : (c.call kind r w k).registry.WellFormed :=
  wellFormed_queryHandle kind _ _ (wellFormed_bind hr kind.create) w

end Client

end Tether
