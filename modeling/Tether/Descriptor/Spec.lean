import Tether.Descriptor.Basic

namespace Tether

/-! # Connection options as users write them

An options object has twelve fields, all of which may be left out. Wherever it is read from, a field is set by
`ConnectionSpec.set` with readers for the types that fields have, and `ConnectionSpec.toDescriptor` makes the
descriptor.
-/

/-- The options that a user wrote. -/
structure ConnectionSpec where
  addresses : List String := []
  masterName : Option String := none
  cluster : Option ClusterOptions := none
  username : Option String := none
  password : Option String := none
  database : Option Int64 := none
  clientName : Option String := none
  tls : Bool := false
  sentinelUsername : Option String := none
  sentinelPassword : Option String := none
  /-- A number of milliseconds. -/
  dialTimeout : Option UInt64 := none
  /-- A number of milliseconds. -/
  responseTimeout : Option UInt64 := none
deriving DecidableEq, Repr

/-- A field of the options. -/
inductive SpecField where
  | addresses
  | masterName
  | cluster
  | username
  | password
  | database
  | clientName
  | tls
  | sentinelUsername
  | sentinelPassword
  | dialTimeout
  | responseTimeout
deriving DecidableEq, Repr

namespace SpecField

/-- The fields in their order. -/
def all : List SpecField :=
  [.addresses, .masterName, .cluster, .username, .password, .database, .clientName, .tls,
    .sentinelUsername, .sentinelPassword, .dialTimeout, .responseTimeout]

/-- The name of a field. -/
def name : SpecField → String
  | .addresses => "addresses"
  | .masterName => "masterName"
  | .cluster => "cluster"
  | .username => "username"
  | .password => "password"
  | .database => "database"
  | .clientName => "clientName"
  | .tls => "tls"
  | .sentinelUsername => "sentinelUsername"
  | .sentinelPassword => "sentinelPassword"
  | .dialTimeout => "dialTimeout"
  | .responseTimeout => "responseTimeout"

/-- The field of a name. -/
def ofName? (name : String) : Option SpecField := all.find? (·.name = name)

/-- The names of all fields. -/
def names : List String := all.map name

end SpecField

/-- How the value at hand is read as each of the types that fields have. -/
structure FieldReaders (m : Type → Type) where
  texts : m (List String)
  flag : m Bool
  text? : m (Option String)
  int64? : m (Option Int64)
  uint64? : m (Option UInt64)
  cluster? : m (Option ClusterOptions)

namespace ConnectionSpec

/-- Sets a field to the value at hand. -/
def set {m : Type → Type} [Functor m] (r : FieldReaders m) (s : ConnectionSpec) : SpecField → m ConnectionSpec
  | .addresses => (fun v => { s with addresses := v }) <$> r.texts
  | .masterName => (fun v => { s with masterName := v }) <$> r.text?
  | .cluster => (fun v => { s with cluster := v }) <$> r.cluster?
  | .username => (fun v => { s with username := v }) <$> r.text?
  | .password => (fun v => { s with password := v }) <$> r.text?
  | .database => (fun v => { s with database := v }) <$> r.int64?
  | .clientName => (fun v => { s with clientName := v }) <$> r.text?
  | .tls => (fun v => { s with tls := v }) <$> r.flag
  | .sentinelUsername => (fun v => { s with sentinelUsername := v }) <$> r.text?
  | .sentinelPassword => (fun v => { s with sentinelPassword := v }) <$> r.text?
  | .dialTimeout => (fun v => { s with dialTimeout := v }) <$> r.uint64?
  | .responseTimeout => (fun v => { s with responseTimeout := v }) <$> r.uint64?

/-- The mode that the options select. -/
def mode (s : ConnectionSpec) : Except DescriptorError Mode :=
  match s.masterName, s.cluster with
  | some _, some _ => .error .conflictingModes
  | some name, none => .ok (.sentinel name)
  | none, some options => .ok (.cluster options)
  | none, none => .ok .single

/-- The settings of the connection. -/
def options (s : ConnectionSpec) : ConnectionOptions where
  username := s.username
  password := s.password
  database := s.database.getD 0
  clientName := s.clientName
  tls := s.tls
  sentinelUsername := s.sentinelUsername
  sentinelPassword := s.sentinelPassword
  dialTimeout := s.dialTimeout.map Duration.ofMillis
  responseTimeout := s.responseTimeout.map Duration.ofMillis

/-- The descriptor of the options. -/
def toDescriptor (s : ConnectionSpec) : Except DescriptorError Descriptor := do
  Descriptor.new s.addresses (← s.mode) s.options

end ConnectionSpec

end Tether
