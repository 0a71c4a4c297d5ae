import Tether.Descriptor.Error
import Tether.Duration

namespace Tether

/-! # Connection descriptors

A descriptor names the nodes of a store and says how to use them. `Descriptor.new` is the only way to one:
every address splits, there is at least one, and a sentinel's master has a name. So `Descriptor.endpoints`
has an endpoint for every address, in the same order (`Descriptor.map_endpoint?`).
-/

/-- Settings of a cluster. -/
structure ClusterOptions where
  readFromReplicas : Bool := false
deriving DecidableEq, Repr

/-- How the addresses are to be used. -/
inductive Mode where
  /-- The first address is the store. -/
  | single
  /-- The addresses are sentinels that know where the master of this name is. -/
  | sentinel (masterName : String)
  /-- The addresses are nodes of a cluster to begin with. -/
  | cluster (options : ClusterOptions)
deriving DecidableEq, Repr

/-- The name of a mode. -/
def Mode.text : Mode → String
  | .single => "single"
  | .sentinel _ => "sentinel"
  | .cluster _ => "cluster"

/-- Settings of a connection that do not say which store it is. -/
structure ConnectionOptions where
  username : Option String := none
  password : Option String := none
  database : Int64 := 0
  clientName : Option String := none
  tls : Bool := false
  sentinelUsername : Option String := none
  sentinelPassword : Option String := none
  /-- The time that making a connection may take. -/
  dialTimeout : Option Duration := none
  /-- The time that one command may take. -/
  responseTimeout : Option Duration := none
deriving DecidableEq, Repr

/-- Which nodes to use, and how. -/
structure Descriptor where
  addresses : List String
  mode : Mode
  options : ConnectionOptions
  addresses_ne_nil : addresses ≠ []
  endpoint_isSome : ∀ a ∈ addresses, (Address.endpoint? a).isSome
  masterName_ne_empty : ∀ name, mode = .sentinel name → name ≠ ""
deriving DecidableEq, Repr

namespace Descriptor

/-- The first address that does not split, with its fault. -/
def firstFault? : List String → Option (String × Address.Fault)
  | [] => none
  | a :: rest =>
    match Address.split a with
    | .error fault => some (a, fault)
    | .ok _ => firstFault? rest

theorem endpoint_isSome_of_firstFault?_eq_none {addresses : List String}
    (h : firstFault? addresses = none) : ∀ a ∈ addresses, (Address.endpoint? a).isSome := by
  induction addresses with
  | nil => simp
  | cons b rest ih =>
    unfold firstFault? at h
    split at h
    · simp at h
    · next e he =>
      intro a ha
      rcases List.mem_cons.1 ha with rfl | ha
      · simp [Address.endpoint?, he, Except.toOption]
      · exact ih h a ha

/-- The descriptor of these parts, if they are valid. -/
def new (addresses : List String) (mode : Mode) (options : ConnectionOptions) :
    Except DescriptorError Descriptor :=
  if hne : addresses = [] then .error .missingAddresses
  else
    match hf : firstFault? addresses with
    | some (address, fault) => .error (.invalidAddress address fault)
    | none =>
      if hm : mode = .sentinel "" then .error (.malformed .emptyMasterName)
      else .ok ⟨addresses, mode, options, hne, endpoint_isSome_of_firstFault?_eq_none hf,
        fun _ hn he => hm (he ▸ hn)⟩

/-- The descriptor of one node with nothing set. -/
def single (address : String) : Except DescriptorError Descriptor := new [address] .single {}

/-- The endpoints of the addresses. -/
def endpoints (d : Descriptor) : List Endpoint := d.addresses.filterMap Address.endpoint?

theorem map_endpoint? (d : Descriptor) : d.addresses.map Address.endpoint? = d.endpoints.map some := by
  have h := d.endpoint_isSome
  unfold endpoints
  generalize d.addresses = addresses at h
  induction addresses with
  | nil => rfl
  | cons a rest ih =>
    obtain ⟨e, he⟩ := Option.isSome_iff_exists.1 (h a (List.mem_cons_self ..))
    simp [he, ih fun b hb => h b (List.mem_cons_of_mem _ hb)]

end Descriptor

end Tether
