import Tether.Descriptor.OfJson
import Tether.Proofs.Address.Brackets
import Tether.Proofs.Descriptor.Parameters

namespace Tether

/-! # Where descriptors come from

The endpoints of a descriptor are what is left when the addresses that do not split are dropped, without a word. We
show that nothing is ever dropped:

* `Descriptor.exists_new_iff`: parts are accepted exactly if there is an address, all of them split, and a master that
  is to be found has a name;
* `Descriptor.Origin.exists_new`: whatever a descriptor is made from, its parts were accepted;
* `Descriptor.keeps_all_addresses`: so it has an endpoint with a host for each of its addresses, and what is dialled is
  never nothing.
-/

theorem Address.host_ne_empty {a : String} {e : Endpoint} (h : split a = .ok e) : e.host ≠ "" := by
  obtain ⟨_, _, _, _, _, hne, _⟩ := split_eq_ok_iff_stripBrackets.1 (show split a = .ok ⟨e.host, e.port⟩ from h)
  exact hne

namespace Descriptor

/-! ## Origins -/

/-- What a descriptor is made from. -/
inductive Origin where
  | parts (addresses : List String) (mode : Mode) (options : ConnectionOptions)
  | address (a : String)
  | url (text : String)
  /-- A URL or an object of options. -/
  | value (j : Json)
  | spec (s : ConnectionSpec)

namespace Origin

/-- The descriptor that is made, if one is. -/
def descriptor : Origin → Except DescriptorError Descriptor
  | parts addresses mode options => new addresses mode options
  | address a => single a
  | url text => ofUrl text
  | value j => ofJson j
  | spec s => s.toDescriptor

variable {d : Descriptor}

theorem exists_new_of_ofUrl {text : String} (h : ofUrl text = .ok d) :
    ∃ addresses mode options, new addresses mode options = .ok d := by
  unfold ofUrl ofUrlBy at h
  split at h
  · cases h
  · exact ⟨_, _, _, h⟩

theorem exists_new_of_toDescriptor {s : ConnectionSpec} (h : s.toDescriptor = .ok d) :
    ∃ addresses mode options, new addresses mode options = .ok d := by
  obtain ⟨mode, _, hnew⟩ := exists_of_bind_eq_ok h
  exact ⟨s.addresses, mode, s.options, hnew⟩

theorem exists_new_of_ofJson {j : Json} (h : ofJson j = .ok d) :
    ∃ addresses mode options, new addresses mode options = .ok d := by
  unfold ofJson at h
  split at h
  · exact exists_new_of_ofUrl h
  · split at h
    · cases h
    · exact exists_new_of_toDescriptor h
  · cases h

/-- All ways to a descriptor go by its parts. -/
theorem exists_new {o : Origin} (h : o.descriptor = .ok d) :
    ∃ addresses mode options, new addresses mode options = .ok d := by
  cases o with
  | parts addresses mode options => exact ⟨addresses, mode, options, h⟩
  | address a => exact ⟨[a], .single, {}, h⟩
  | url text => exact exists_new_of_ofUrl h
  | value j => exact exists_new_of_ofJson h
  | spec s => exact exists_new_of_toDescriptor h

/-- So the parts of the descriptor are such as are accepted. -/
theorem accepted {o : Origin} (h : o.descriptor = .ok d) :
    d.addresses ≠ [] ∧ (∀ a ∈ d.addresses, ∃ e, Address.split a = .ok e) ∧ d.mode ≠ .sentinel "" := by
  obtain ⟨addresses, mode, options, hnew⟩ := exists_new h
  obtain ⟨rfl, rfl, rfl⟩ := new_eq_ok_iff.1 hnew
  exact exists_new_iff.1 ⟨d, hnew⟩

end Origin

/-! ## What is dialled -/

/-- What is dialled where these are the endpoints that are left; without any there is no node to dial alone. -/
def planAt? (d : Descriptor) (endpoints : List Endpoint) : Option ConnectionPlan :=
  match d.mode with
  | .single => endpoints.head?.map fun e => .single (d.dataAccess.node e)
  | .sentinel masterName => some (.sentinel (endpoints.map d.sentinelAccess.node) masterName d.dataAccess)
  | .cluster options => some (.cluster (endpoints.map d.seedAccess.node) d.login options.readFromReplicas)

theorem planAt?_endpoints (d : Descriptor) : d.planAt? d.endpoints = some d.plan := by
  unfold planAt?
  cases h : d.mode with
  | single =>
    rw [plan_of_single h, List.head?_eq_some_head d.endpoints_ne_nil]
    rfl
  | sentinel masterName => rw [plan_of_sentinel h]
  | cluster options => rw [plan_of_cluster h]

/-- Sentinels and the first nodes of clusters are all at their addresses. -/
theorem nodes_plan_eq_map {d : Descriptor} (hmode : d.mode ≠ .single) :
    ∃ access : Access, d.plan.nodes = d.endpoints.map access.node := by
  cases h : d.mode with
  | single => exact absurd h hmode
  | sentinel masterName =>
    rw [plan_of_sentinel h]
    exact ⟨d.sentinelAccess, rfl⟩
  | cluster options =>
    rw [plan_of_cluster h]
    exact ⟨d.seedAccess, rfl⟩

/-! ## Nothing is dropped -/

/-- Parts are accepted exactly if there is an address, all addresses split, and a master that is to be found has a name.
Whatever an accepted descriptor was made from, it has an endpoint with a host for each of its addresses, in their order,
and a master's name is not empty. So there is always a first endpoint for a single node, and the nodes of sentinels and
clusters are all that the addresses say. -/
theorem keeps_all_addresses :
    (∀ addresses mode options, (∃ d, new addresses mode options = .ok d) ↔
      addresses ≠ [] ∧ (∀ a ∈ addresses, ∃ e, Address.split a = .ok e) ∧ mode ≠ .sentinel "") ∧
    ∀ (o : Origin) (d : Descriptor), o.descriptor = .ok d →
      d.addresses ≠ [] ∧ d.endpoints.length = d.addresses.length ∧
      (∀ (i : Nat) (a : String), d.addresses[i]? = some a →
        ∃ e, Address.split a = .ok e ∧ d.endpoints[i]? = some e) ∧
      (∀ e ∈ d.endpoints, e.host ≠ "") ∧ (∀ name, d.mode = .sentinel name → name ≠ "") ∧
      d.planAt? d.endpoints = some d.plan ∧
      (d.mode ≠ .single → d.plan.nodes ≠ [] ∧ d.plan.nodes.map Node.endpoint = d.endpoints) := by
  refine ⟨fun addresses mode options => exists_new_iff, ?_⟩
  intro o d hd
  obtain ⟨hne, hsplit, hmode⟩ := Origin.accepted hd
  have hlength : d.endpoints.length = d.addresses.length :=
    List.filterMap_length_eq_length.2 fun a ha => Address.isSome_endpoint?_iff.2 (hsplit a ha)
  have hforall := d.forall₂_endpoints
  refine ⟨hne, hlength, ?_, ?_, ?_, d.planAt?_endpoints, ?_⟩
  · intro i a ha
    obtain ⟨hi, rfl⟩ := List.getElem?_eq_some_iff.1 ha
    have hi' : i < d.endpoints.length := hlength ▸ hi
    exact ⟨d.endpoints[i], (List.forall₂_iff_get.1 hforall).2 i hi hi', List.getElem?_eq_getElem hi'⟩
  · intro e he
    obtain ⟨a, _, ha⟩ := List.mem_filterMap.1 he
    exact Address.host_ne_empty (Address.endpoint?_eq_some_iff_split.1 ha)
  · rintro name hname rfl
    exact hmode hname
  · intro hsingle
    obtain ⟨access, hnodes⟩ := nodes_plan_eq_map hsingle
    rw [hnodes, List.map_map]
    exact ⟨fun hnil => d.endpoints_ne_nil (List.map_eq_nil_iff.1 hnil), List.map_id' _⟩

/-- Two sentinels, as options. -/
def sentinels : Origin :=
  .value (.object [("addresses", .array [.string "10.0.0.1:26379", .string "[::1]:26380"]),
    ("masterName", .string "m")])

theorem keeps_all_addresses_of_sentinels :
    ∃ d, sentinels.descriptor = .ok d ∧ d.addresses = ["10.0.0.1:26379", "[::1]:26380"] ∧
      d.endpoints.length = 2 ∧ d.plan.nodes ≠ [] ∧ ∀ e ∈ d.endpoints, e.host ≠ "" := by
  have haccepted : sentinels.descriptor.toOption.any (fun d =>
      d.addresses = ["10.0.0.1:26379", "[::1]:26380"] ∧ d.mode = .sentinel "m") = true := by decide +kernel
  cases hd : sentinels.descriptor with
  | error e =>
    rw [hd] at haccepted
    cases haccepted
  | ok d =>
    rw [hd] at haccepted
    obtain ⟨haddresses, hmode⟩ := of_decide_eq_true haccepted
    obtain ⟨_, hlength, _, hhosts, _, _, hnodes⟩ := keeps_all_addresses.2 sentinels d hd
    rw [haddresses] at hlength
    refine ⟨d, rfl, haddresses, hlength, (hnodes ?_).1, hhosts⟩
    rw [hmode]
    exact nofun

end Descriptor

end Tether
