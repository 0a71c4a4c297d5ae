import Tether.Descriptor.Basic
import Tether.Node

namespace Tether

/-! # Connection plans

A plan says which nodes are dialled for a descriptor, and as whom. The nodes that hold data get the credentials
and the database of the descriptor, its sentinels get the credentials for sentinels, and the first nodes of a
cluster get their credentials when they are dialled.
-/

/-- How to reach a node, and who to be there. -/
structure Access where
  security : Security
  username : Option String := none
  password : Option String := none
  database : Int64 := 0
deriving DecidableEq, Repr

/-- The node at an endpoint. -/
def Access.node (a : Access) (e : Endpoint) : Node := ⟨e.host, e.port, a.security, a.username, a.password, a.database⟩

/-- Who to be at the nodes of a cluster. -/
structure Login where
  username : Option String
  password : Option String
deriving DecidableEq, Repr

/-- A node with a login. -/
def Login.node (l : Login) (n : Node) : Node := { n with username := l.username, password := l.password }

/-- What is dialled. -/
inductive ConnectionPlan where
  | single (node : Node)
  /-- The sentinels are asked for the master, which is then dialled with `access`. -/
  | sentinel (sentinels : List Node) (masterName : String) (access : Access)
  | cluster (seeds : List Node) (login : Login) (readFromReplicas : Bool)
deriving DecidableEq, Repr

/-- How links are secured; where they use TLS, certificates are verified. -/
def ConnectionOptions.security (o : ConnectionOptions) : Security := if o.tls then .verified else .plain

namespace Descriptor

/-- The access to nodes that hold data. -/
def dataAccess (d : Descriptor) : Access :=
  ⟨d.options.security, d.options.username, d.options.password, d.options.database⟩

/-- The access to sentinels, which have no databases. -/
def sentinelAccess (d : Descriptor) : Access :=
  { security := d.options.security, username := d.options.sentinelUsername, password := d.options.sentinelPassword }

/-- The access to the first nodes of a cluster. -/
def seedAccess (d : Descriptor) : Access := { security := d.options.security }

/-- The login at the nodes of a cluster. -/
def login (d : Descriptor) : Login := ⟨d.options.username, d.options.password⟩

theorem endpoints_ne_nil (d : Descriptor) : d.endpoints ≠ [] := by
  intro h
  have hm := d.map_endpoint?
  simp only [h, List.map_nil, List.map_eq_nil_iff] at hm
  exact d.addresses_ne_nil hm

/-- What is dialled for a descriptor; only the first address counts for a single node. -/
def plan (d : Descriptor) : ConnectionPlan :=
  match d.mode with
  | .single => .single (d.dataAccess.node (d.endpoints.head d.endpoints_ne_nil))
  | .sentinel masterName => .sentinel (d.endpoints.map d.sentinelAccess.node) masterName d.dataAccess
  | .cluster options => .cluster (d.endpoints.map d.seedAccess.node) d.login options.readFromReplicas

end Descriptor

end Tether
