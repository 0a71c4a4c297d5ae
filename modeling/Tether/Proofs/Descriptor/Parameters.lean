import Mathlib.Data.List.Forall2
import Tether.Proofs.Address.Shape
import Tether.Proofs.Descriptor.Sharing

namespace Tether

/-! # What each node is given

A descriptor has credentials for the nodes that hold data and others for sentinels, and each kind of node is to be given
its own. We show:

* `Descriptor.forall₂_nodes`: there is one node for each address, in the order of the addresses;
* `Descriptor.plan_gives_each_node_its_own`: every node is secured as the descriptor says and given the credentials and
  the database of its kind; so neither kind of node depends on the credentials for the other.
-/

namespace ConnectionPlan

/-- The sentinels that are asked. -/
def sentinels : ConnectionPlan → List Node
  | .sentinel sentinels _ _ => sentinels
  | _ => []

/-- How the master that sentinels tell is dialled. -/
def master? : ConnectionPlan → Option Access
  | .sentinel _ _ access => some access
  | _ => none

/-- How the links to all nodes are secured. -/
def securities (p : ConnectionPlan) : List Security := p.nodes.map (·.security) ++ p.master?.toList.map (·.security)

/-- What the nodes that hold data are dialled with. -/
def withoutSentinels : ConnectionPlan → ConnectionPlan
  | .sentinel _ masterName access => .sentinel [] masterName access
  | p => p

end ConnectionPlan

namespace ConnectionOptions

/-- The settings are the same but for what nodes that hold data are given. -/
def AgreeButData (o o' : ConnectionOptions) : Prop :=
  { o with username := o'.username, password := o'.password, database := o'.database } = o'

/-- The settings are the same but for what sentinels are given. -/
def AgreeButSentinels (o o' : ConnectionOptions) : Prop :=
  { o with sentinelUsername := o'.sentinelUsername, sentinelPassword := o'.sentinelPassword } = o'

theorem security_eq_verified_iff (o : ConnectionOptions) : o.security = .verified ↔ o.tls = true := by
  cases h : o.tls <;> simp [security, h]

theorem security_eq_plain_iff (o : ConnectionOptions) : o.security = .plain ↔ o.tls = false := by
  cases h : o.tls <;> simp [security, h]

end ConnectionOptions

/-- The node is at an address, and is dialled with an access. -/
def Node.IsDialled (a : Access) (address : String) (n : Node) : Prop :=
  Address.split address = .ok n.endpoint ∧ n.security = a.security ∧ n.username = a.username ∧
    n.password = a.password ∧ n.database = a.database

namespace Descriptor

theorem forall₂_endpoints (d : Descriptor) :
    List.Forall₂ (fun address e => Address.split address = .ok e) d.addresses d.endpoints := by
  have heq : List.Forall₂ (· = ·) (d.addresses.map Address.endpoint?) (d.endpoints.map some) := by
    rw [List.forall₂_eq_eq_eq]
    exact d.map_endpoint?
  rw [List.forall₂_map_left_iff, List.forall₂_map_right_iff] at heq
  exact heq.imp fun _ _ => Address.endpoint?_eq_some_iff_split.1

/-- There is one node for each address, in the order of the addresses. -/
theorem forall₂_nodes (d : Descriptor) (a : Access) :
    List.Forall₂ (Node.IsDialled a) d.addresses (d.endpoints.map a.node) := by
  rw [List.forall₂_map_right_iff]
  exact d.forall₂_endpoints.imp fun _ _ he => ⟨he, rfl, rfl, rfl, rfl⟩

/-- A single node is at the first address. -/
theorem forall₂_first (d : Descriptor) (a : Access) :
    List.Forall₂ (Node.IsDialled a) (d.addresses.take 1) [a.node d.firstEndpoint] := by
  have h := List.forall₂_take 1 (d.forall₂_nodes a)
  have hfirst : (d.endpoints.map a.node).take 1 = [a.node d.firstEndpoint] := by
    unfold firstEndpoint
    generalize d.endpoints_ne_nil = hne
    revert hne
    cases d.endpoints with
    | nil => exact fun hne => absurd rfl hne
    | cons e rest => exact fun _ => rfl
  rwa [hfirst] at h

theorem plan_of_single {d : Descriptor} (h : d.mode = .single) :
    d.plan = .single (d.dataAccess.node d.firstEndpoint) := by
  unfold plan
  rw [h]
  rfl

theorem plan_of_sentinel {d : Descriptor} {name : String} (h : d.mode = .sentinel name) :
    d.plan = .sentinel (d.endpoints.map d.sentinelAccess.node) name d.dataAccess := by
  unfold plan
  rw [h]

theorem plan_of_cluster {d : Descriptor} {options : ClusterOptions} (h : d.mode = .cluster options) :
    d.plan = .cluster (d.endpoints.map d.seedAccess.node) d.login options.readFromReplicas := by
  unfold plan
  rw [h]

/-- All links are secured alike. -/
theorem securities_plan {d : Descriptor} {s : Security} (hs : s ∈ d.plan.securities) : s = d.options.security := by
  have hnodes : ∀ a : Access, a.security = d.options.security → ∀ n ∈ d.endpoints.map a.node,
      n.security = d.options.security := by
    intro a ha n hn
    obtain ⟨e, _, rfl⟩ := List.mem_map.1 hn
    exact ha
  rcases List.mem_append.1 hs with hs | hs
  · -- the nodes that are dialled first
    obtain ⟨n, hn, rfl⟩ := List.mem_map.1 hs
    cases hmode : d.mode with
    | single =>
      rw [plan_of_single hmode] at hn
      rw [List.mem_singleton.1 hn]
      rfl
    | sentinel name =>
      rw [plan_of_sentinel hmode] at hn
      exact hnodes d.sentinelAccess rfl n hn
    | cluster options =>
      rw [plan_of_cluster hmode] at hn
      exact hnodes d.seedAccess rfl n hn
  · -- the master
    obtain ⟨a, ha, rfl⟩ := List.mem_map.1 hs
    cases hmode : d.mode with
    | single => simp [plan_of_single hmode, ConnectionPlan.master?] at ha
    | cluster options => simp [plan_of_cluster hmode, ConnectionPlan.master?] at ha
    | sentinel name =>
      rw [plan_of_sentinel hmode] at ha
      rw [List.mem_singleton.1 ha]
      rfl

theorem endpoints_eq {d e : Descriptor} (h : d.addresses = e.addresses) : d.endpoints = e.endpoints := by
  rw [endpoints, h, endpoints]

/-- What sentinels are given does not depend on what nodes that hold data are given. -/
theorem sentinels_plan_eq {d e : Descriptor} (haddresses : d.addresses = e.addresses) (hmode : d.mode = e.mode)
    (h : d.options.AgreeButData e.options) : d.plan.sentinels = e.plan.sentinels := by
  cases hd : d.mode with
  | single => rw [plan_of_single hd, plan_of_single (hmode ▸ hd)]; rfl
  | cluster options => rw [plan_of_cluster hd, plan_of_cluster (hmode ▸ hd)]; rfl
  | sentinel name =>
    have haccess : d.sentinelAccess = e.sentinelAccess := by
      rw [sentinelAccess, sentinelAccess, ← h]
      rfl
    rw [plan_of_sentinel hd, plan_of_sentinel (hmode ▸ hd), endpoints_eq haddresses, haccess]
    rfl

/-- What nodes that hold data are given does not depend on what sentinels are given. -/
theorem withoutSentinels_plan_eq {d e : Descriptor} (haddresses : d.addresses = e.addresses) (hmode : d.mode = e.mode)
    (h : d.options.AgreeButSentinels e.options) : d.plan.withoutSentinels = e.plan.withoutSentinels := by
  have haccess : d.dataAccess = e.dataAccess := by
    rw [dataAccess, dataAccess, ← h]
    rfl
  cases hd : d.mode with
  | single =>
    have hfirst : d.firstEndpoint = e.firstEndpoint := by
      unfold firstEndpoint
      congr 1
      exact endpoints_eq haddresses
    rw [plan_of_single hd, plan_of_single (hmode ▸ hd), hfirst, haccess]
  | sentinel name =>
    rw [plan_of_sentinel hd, plan_of_sentinel (hmode ▸ hd), haccess]
    rfl
  | cluster options =>
    have hseed : d.seedAccess = e.seedAccess := by
      rw [seedAccess, seedAccess, ← h]
      rfl
    have hlogin : d.login = e.login := by
      rw [login, login, ← h]
    rw [plan_of_cluster hd, plan_of_cluster (hmode ▸ hd), endpoints_eq haddresses, hseed, hlogin]

/-- The nodes that are dialled for a descriptor are at its addresses, one for each and in their order; only a single node
is at the first alone. All links, that to a sentinel's master included, use TLS exactly if the descriptor says so, and
then with certificates verified. Sentinels are given the credentials for sentinels and no database; a single node and a
sentinel's master are given the credentials and the database for data; the nodes of a cluster have a login with the
credentials for data. So sentinels are dialled alike for descriptors that differ in what is for data, and nodes that
hold data alike for descriptors that differ in what is for sentinels. -/
theorem plan_gives_each_node_its_own (d : Descriptor) :
    (d.mode = .single → ∃ n, d.plan = .single n ∧
      List.Forall₂ (Node.IsDialled ⟨d.options.security, d.options.username, d.options.password, d.options.database⟩)
        (d.addresses.take 1) [n]) ∧
    (∀ name, d.mode = .sentinel name → ∃ sentinels, d.plan = .sentinel sentinels name
        ⟨d.options.security, d.options.username, d.options.password, d.options.database⟩ ∧
      List.Forall₂ (Node.IsDialled
        ⟨d.options.security, d.options.sentinelUsername, d.options.sentinelPassword, 0⟩) d.addresses sentinels) ∧
    (∀ options, d.mode = .cluster options → ∃ seeds, d.plan = .cluster seeds
        ⟨d.options.username, d.options.password⟩ options.readFromReplicas ∧
      List.Forall₂ (Node.IsDialled ⟨d.options.security, none, none, 0⟩) d.addresses seeds) ∧
    (∀ s ∈ d.plan.securities, (s = .verified ↔ d.options.tls = true) ∧ (s = .plain ↔ d.options.tls = false)) ∧
    ∀ e : Descriptor, d.addresses = e.addresses → d.mode = e.mode →
      (d.options.AgreeButData e.options → d.plan.sentinels = e.plan.sentinels) ∧
      (d.options.AgreeButSentinels e.options → d.plan.withoutSentinels = e.plan.withoutSentinels) := by
  refine ⟨?_, ?_, ?_, ?_, ?_⟩
  · intro h
    exact ⟨_, plan_of_single h, d.forall₂_first d.dataAccess⟩
  · intro name h
    exact ⟨_, plan_of_sentinel h, d.forall₂_nodes d.sentinelAccess⟩
  · intro options h
    exact ⟨_, plan_of_cluster h, d.forall₂_nodes d.seedAccess⟩
  · intro s hs
    rw [securities_plan hs]
    exact ⟨d.options.security_eq_verified_iff, d.options.security_eq_plain_iff⟩
  · intro e haddresses hmode
    exact ⟨sentinels_plan_eq haddresses hmode, withoutSentinels_plan_eq haddresses hmode⟩

/-- Two sentinels with credentials of their own. -/
def guarded : Descriptor where
  addresses := ["s2:26379", "[::1]:26380"]
  mode := .sentinel "primary"
  options :=
    { username := some "app", password := some "secret", database := 3, tls := true
      sentinelUsername := some "watch", sentinelPassword := some "other" }
  addresses_ne_nil := List.cons_ne_nil _ _
  endpoint_isSome := by decide
  masterName_ne_empty := by
    rintro name ⟨⟩
    decide

/-- Other credentials for data leave the sentinels as they are, which have TLS and their own password. -/
theorem plan_gives_guarded_their_own :
    guarded.options.AgreeButData { guarded.options with username := none, password := some "new", database := 0 } ∧
    (∀ e : Descriptor, guarded.addresses = e.addresses → guarded.mode = e.mode →
      e.options = { guarded.options with username := none, password := some "new", database := 0 } →
      guarded.plan.sentinels = e.plan.sentinels) ∧
    ∃ sentinels, guarded.plan =
      .sentinel sentinels "primary" ⟨.verified, some "app", some "secret", 3⟩ ∧
      sentinels.map (fun n => (n.host, n.port, n.password)) =
        [("s2", 26379, some "other"), ("::1", 26380, some "other")] := by
  have h := plan_gives_each_node_its_own guarded
  refine ⟨rfl, ?_, ?_⟩
  · intro e haddresses hmode hoptions
    exact (h.2.2.2.2 e haddresses hmode).1 (hoptions ▸ rfl)
  · obtain ⟨sentinels, hplan, _⟩ := h.2.1 "primary" rfl
    refine ⟨sentinels, hplan, ?_⟩
    have hnodes : sentinels = guarded.plan.sentinels := by rw [hplan]; rfl
    rw [hnodes]
    decide

end Descriptor

end Tether
