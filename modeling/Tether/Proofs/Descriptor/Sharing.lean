import Tether.Handle.Live
import Tether.Proofs.Descriptor.New
import Tether.Proofs.Fingerprint.Order
import Tether.Proofs.Registry.Entries

namespace Tether

/-! # Sharing and the order of addresses

Descriptors whose addresses are permutations of each other share a handle, and the handle is made from the one that
came first. We show what that means for the nodes that are dialled:

* `nodes_plan_perm`: sentinels, and the first nodes of a cluster, are the same whichever came first;
* `endpoints_plan_single`: a single node is the one at the first address of the descriptor that came first;
* `sharing_keeps_endpoints_iff`: so sharing matters exactly where the first addresses of single nodes differ.
-/

/-- Where a node listens. -/
def Node.endpoint (n : Node) : Endpoint := ⟨n.host, n.port⟩

namespace ConnectionPlan

/-- The nodes that are dialled first. -/
def nodes : ConnectionPlan → List Node
  | .single node => [node]
  | .sentinel sentinels _ _ => sentinels
  | .cluster seeds _ _ => seeds

/-- The endpoints that are dialled first. -/
def endpoints (p : ConnectionPlan) : List Endpoint := p.nodes.map Node.endpoint

end ConnectionPlan

namespace Descriptor

/-- The endpoint of the first address. -/
def firstEndpoint (d : Descriptor) : Endpoint := d.endpoints.head d.endpoints_ne_nil

theorem endpoints_perm {d e : Descriptor} (h : d.addresses.Perm e.addresses) : d.endpoints.Perm e.endpoints :=
  h.filterMap Address.endpoint?

/-- The nodes of sentinels and clusters are permuted as the addresses are. -/
theorem nodes_plan_perm {d e : Descriptor} (hmode : d.mode = e.mode) (hoptions : d.options = e.options)
    (h : d.addresses.Perm e.addresses) (hsingle : d.mode ≠ .single) : d.plan.nodes.Perm e.plan.nodes := by
  have hsentinel : d.sentinelAccess = e.sentinelAccess := by rw [sentinelAccess, sentinelAccess, hoptions]
  have hseed : d.seedAccess = e.seedAccess := by rw [seedAccess, seedAccess, hoptions]
  unfold plan
  rw [← hmode]
  cases hd : d.mode with
  | single => exact absurd hd hsingle
  | sentinel masterName =>
    show (d.endpoints.map d.sentinelAccess.node).Perm (e.endpoints.map e.sentinelAccess.node)
    rw [hsentinel]
    exact (endpoints_perm h).map _
  | cluster options =>
    show (d.endpoints.map d.seedAccess.node).Perm (e.endpoints.map e.seedAccess.node)
    rw [hseed]
    exact (endpoints_perm h).map _

theorem endpoints_plan_single {d : Descriptor} (h : d.mode = .single) : d.plan.endpoints = [d.firstEndpoint] := by
  unfold plan
  rw [h]
  rfl

/-- The first of two descriptors with one fingerprint has the handle made, and the second gets it as it is. -/
theorem handle_of_first {H : Type} (create : Descriptor → H) {r : Registry H} {d e : Descriptor}
    (hf : d.fingerprint = e.fingerprint) (hnew : r.probe d.fingerprint = none) :
    (((r.getOrCreate create d).registry).getOrCreate create e).handle = (r.getOrCreate create d).handle ∧
      (((r.getOrCreate create d).registry).getOrCreate create e).registry.handle? (r.getOrCreate create d).handle =
        some (create d) := by
  rw [Registry.getOrCreate_getOrCreate create r hf]
  -- the second call changes nothing
  refine ⟨rfl, ?_⟩
  rw [(Registry.getOrCreate_eq_enter r create d).1, (Registry.getOrCreate_eq_enter r create d).2,
    Registry.enter_of_eq_none create hnew]
  simp [Registry.handle?, Registry.insert, Registry.created]

/-- Of two descriptors that differ in the order of their addresses, the first has a handle made from it that both
share. Which of them that was makes no difference to the nodes that are dialled, but for a single node: that is the
one at the first address of the first descriptor. So the endpoints are the same exactly if the first addresses of
single nodes are. -/
theorem sharing_keeps_endpoints_iff {d e : Descriptor} (hmode : d.mode = e.mode) (hoptions : d.options = e.options)
    (hperm : d.addresses.Perm e.addresses) :
    d.fingerprint = e.fingerprint ∧
    (∀ r : Registry (LiveHandle Connection), r.probe d.fingerprint = none →
      (((r.getOrCreate .new d).registry).getOrCreate .new e).handle = (r.getOrCreate .new d).handle ∧
      (((r.getOrCreate .new d).registry).getOrCreate .new e).registry.handle? (r.getOrCreate .new d).handle =
        some (.new d)) ∧
    (d.mode ≠ .single → d.plan.nodes.Perm e.plan.nodes) ∧
    (d.mode = .single → d.plan.endpoints = [d.firstEndpoint] ∧ e.plan.endpoints = [e.firstEndpoint]) ∧
    ((∀ x, x ∈ d.plan.endpoints ↔ x ∈ e.plan.endpoints) ↔
      (d.mode = .single → d.firstEndpoint = e.firstEndpoint)) := by
  have hf : d.fingerprint = e.fingerprint := Fingerprint.fingerprint_eq_of_perm hperm
  have hnodes : d.mode ≠ .single → d.plan.nodes.Perm e.plan.nodes := nodes_plan_perm hmode hoptions hperm
  have hsingle : d.mode = .single → d.plan.endpoints = [d.firstEndpoint] ∧ e.plan.endpoints = [e.firstEndpoint] :=
    fun h => ⟨endpoints_plan_single h, endpoints_plan_single (hmode ▸ h)⟩
  refine ⟨hf, fun r hnew => handle_of_first LiveHandle.new hf hnew, hnodes, hsingle, ?_⟩
  constructor
  · intro h hd
    rw [(hsingle hd).1, (hsingle hd).2] at h
    exact List.mem_singleton.1 ((h _).1 (List.mem_singleton.2 rfl))
  · intro h
    by_cases hd : d.mode = .single
    · -- one endpoint each
      rw [(hsingle hd).1, (hsingle hd).2, h hd]
      exact fun x => Iff.rfl
    · -- the same nodes in another order
      intro x
      exact ((hnodes hd).map Node.endpoint).mem_iff

/-- Two addresses, in descending order. -/
def descending : Descriptor := .ofAddresses ["b:2", "a:1"] (List.cons_ne_nil _ _) (by decide)

/-- The same addresses, in ascending order. -/
def ascending : Descriptor := .ofAddresses ["a:1", "b:2"] (List.cons_ne_nil _ _) (by decide)

/-- The nodes of a descriptor as nodes of a cluster. -/
def asCluster (d : Descriptor) : Descriptor := { d with mode := .cluster {}, masterName_ne_empty := nofun }

/-- The nodes of a cluster are dialled whichever of two orders came first. -/
theorem cluster_keeps_endpoints :
    descending.asCluster.addresses ≠ ascending.asCluster.addresses ∧
      descending.asCluster.fingerprint = ascending.asCluster.fingerprint ∧
      ∀ x, x ∈ descending.asCluster.plan.endpoints ↔ x ∈ ascending.asCluster.plan.endpoints := by
  have hperm : descending.asCluster.addresses.Perm ascending.asCluster.addresses := List.Perm.swap "a:1" "b:2" []
  have hmode : descending.asCluster.mode = ascending.asCluster.mode := rfl
  have h := sharing_keeps_endpoints_iff hmode rfl hperm
  refine ⟨by decide, h.1, h.2.2.2.2.2 ?_⟩
  intro hsingle
  cases hsingle

/-- The single node that is dialled depends on which of two orders came first. -/
theorem single_depends_on_order :
    descending.mode = .single ∧ ascending.mode = .single ∧ descending.options = ascending.options ∧
      descending.addresses.Perm ascending.addresses ∧ descending.fingerprint = ascending.fingerprint ∧
      descending.plan.endpoints = [⟨"b", 2⟩] ∧ ascending.plan.endpoints = [⟨"a", 1⟩] ∧
      ¬ ∀ x, x ∈ descending.plan.endpoints ↔ x ∈ ascending.plan.endpoints := by
  have hperm : descending.addresses.Perm ascending.addresses := List.Perm.swap "a:1" "b:2" []
  have hd : descending.plan.endpoints = [⟨"b", 2⟩] := by decide
  have ha : ascending.plan.endpoints = [⟨"a", 1⟩] := by decide
  refine ⟨rfl, rfl, rfl, hperm, Fingerprint.fingerprint_eq_of_perm hperm, hd, ha, ?_⟩
  intro h
  rw [hd, ha] at h
  have hb := (h ⟨"b", 2⟩).1 (List.mem_singleton.2 rfl)
  simp at hb

end Descriptor

end Tether
