import Tether.Descriptor.Basic
import Tether.Proofs.Address.Shape

namespace Tether

/-! # What is accepted as a descriptor

`Descriptor.new` makes every descriptor from its own parts, and from other parts it makes none
(`Descriptor.new_eq_ok_iff`). So what holds of all descriptors holds of all that are accepted.
-/

/-- What comes of two steps comes of both. -/
theorem exists_of_bind_eq_ok {ε α β : Type} {x : Except ε α} {f : α → Except ε β} {b : β}
    (h : x >>= f = .ok b) : ∃ a, x = .ok a ∧ f a = .ok b := by
  cases x with
  | error e => cases h
  | ok a => exact ⟨a, rfl, h⟩

/-- A single node needs no name of a master. -/
theorem Mode.name_ne_empty_of_single (name : String) (h : Mode.single = .sentinel name) : name ≠ "" := by
  cases h

namespace Descriptor

theorem firstFault?_eq_none {addresses : List String} (h : ∀ a ∈ addresses, (Address.endpoint? a).isSome) :
    firstFault? addresses = none := by
  induction addresses with
  | nil => rfl
  | cons a rest ih =>
    have ha := h a List.mem_cons_self
    have hrest := ih fun b hb => h b (List.mem_cons_of_mem a hb)
    unfold firstFault?
    cases hs : Address.split a with
    | ok e => exact hrest
    | error fault => simp [Address.endpoint?, hs, Except.toOption] at ha

theorem new_eq_ok_iff {addresses : List String} {mode : Mode} {options : ConnectionOptions} {d : Descriptor} :
    new addresses mode options = .ok d ↔ d.addresses = addresses ∧ d.mode = mode ∧ d.options = options := by
  constructor
  · intro h
    unfold new at h
    split at h
    · cases h
    · split at h
      · cases h
      · split at h
        · cases h
        · cases h
          exact ⟨rfl, rfl, rfl⟩
  · rintro ⟨rfl, rfl, rfl⟩
    have hmaster : d.mode ≠ .sentinel "" := fun h => d.masterName_ne_empty "" h rfl
    unfold new
    rw [dif_neg d.addresses_ne_nil]
    split
    · next hf => simp [firstFault?_eq_none d.endpoint_isSome] at hf
    · rw [dif_neg hmaster]

theorem firstFault?_eq_some_iff {addresses : List String} {a : String} {fault : Address.Fault} :
    firstFault? addresses = some (a, fault) ↔
      ∃ before after, addresses = before ++ a :: after ∧ (∀ b ∈ before, ∃ e, Address.split b = .ok e) ∧
        Address.split a = .error fault := by
  induction addresses with
  | nil =>
    constructor
    · intro h
      cases h
    · rintro ⟨before, after, heq, _⟩
      cases before <;> cases heq
  | cons first rest ih =>
    unfold firstFault?
    cases hs : Address.split first with
    | error fault' =>
      constructor
      · rintro ⟨⟩
        exact ⟨[], rest, rfl, fun b hb => absurd hb List.not_mem_nil, hs⟩
      · rintro ⟨before, after, heq, hbefore, hfault⟩
        cases before with
        | nil =>
          obtain ⟨rfl, rfl⟩ := List.cons.inj heq
          rw [hfault] at hs
          cases hs
          rfl
        | cons b before =>
          obtain ⟨rfl, _⟩ := List.cons.inj heq
          obtain ⟨e, he⟩ := hbefore first List.mem_cons_self
          rw [hs] at he
          cases he
    | ok e =>
      show firstFault? rest = some (a, fault) ↔ _
      rw [ih]
      constructor
      · rintro ⟨before, after, rfl, hbefore, hfault⟩
        exact ⟨first :: before, after, rfl, List.forall_mem_cons.2 ⟨⟨e, hs⟩, hbefore⟩, hfault⟩
      · rintro ⟨before, after, heq, hbefore, hfault⟩
        cases before with
        | nil =>
          obtain ⟨rfl, _⟩ := List.cons.inj heq
          rw [hs] at hfault
          cases hfault
        | cons b before =>
          obtain ⟨_, rfl⟩ := List.cons.inj heq
          exact ⟨before, after, rfl, (List.forall_mem_cons.1 hbefore).2, hfault⟩

/-- The first address that does not split is reported. -/
theorem new_of_firstFault?_eq_some {addresses : List String} {a : String} {fault : Address.Fault}
    (h : firstFault? addresses = some (a, fault)) (mode : Mode) (options : ConnectionOptions) :
    new addresses mode options = .error (.invalidAddress a fault) := by
  unfold new
  split
  · next hnil => simp [hnil, firstFault?] at h
  · split
    · next hf =>
      rw [h] at hf
      cases hf
      rfl
    · next hf =>
      rw [h] at hf
      cases hf

/-- Addresses that split do not help a master without a name. -/
theorem new_of_emptyMasterName {addresses : List String} (hne : addresses ≠ []) (hfault : firstFault? addresses = none)
    (options : ConnectionOptions) : new addresses (.sentinel "") options = .error (.malformed .emptyMasterName) := by
  unfold new
  rw [dif_neg hne]
  split
  · next hsome =>
    rw [hfault] at hsome
    cases hsome
  · rw [dif_pos rfl]

/-- Parts are accepted if there is an address, all of them split, and a master that is to be found has a name. -/
theorem exists_new_iff {addresses : List String} {mode : Mode} {options : ConnectionOptions} :
    (∃ d, new addresses mode options = .ok d) ↔
      addresses ≠ [] ∧ (∀ a ∈ addresses, ∃ e, Address.split a = .ok e) ∧ mode ≠ .sentinel "" := by
  simp only [← Address.isSome_endpoint?_iff]
  constructor
  · rintro ⟨d, hd⟩
    unfold new at hd
    split at hd
    · cases hd
    · next hne =>
      split at hd
      · cases hd
      · next hfault =>
        split at hd
        · cases hd
        · next hmode => exact ⟨hne, endpoint_isSome_of_firstFault?_eq_none hfault, hmode⟩
  · rintro ⟨hne, hsplit, hmode⟩
    refine ⟨⟨addresses, mode, options, hne, hsplit, ?_⟩, new_eq_ok_iff.2 ⟨rfl, rfl, rfl⟩⟩
    rintro name rfl rfl
    exact hmode rfl

/-- The descriptor of accepted addresses with nothing set. -/
def ofAddresses (addresses : List String) (hne : addresses ≠ [])
    (h : ∀ a ∈ addresses, (Address.endpoint? a).isSome) : Descriptor :=
  ⟨addresses, .single, {}, hne, h, nofun⟩

end Descriptor

end Tether
