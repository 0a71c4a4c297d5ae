import Tether.Proofs.Client.Call
import Tether.Proofs.Registry.Callers

namespace Tether

/-! # One registry with all its users

A host is a registry with the factories that share it and the clients that they made, and users do one thing after
another with them. We show what any such action does to the registry:

* `Host.act_of_isInert`: nothing, if it makes or drops a client, clones a factory or only looks;
* `Host.creations_act`: any other adds an entry for each handle that it tells to create, and nothing else.
-/

/-- A registry with its factories and clients. -/
structure Host (H σ : Type) where
  world : σ
  registry : Registry H := {}
  factories : Nat := 1
  /-- The clients in the order in which they were made; those that were dropped are gone. -/
  clients : List (Option Client) := []
  events : List Event := []

namespace Host

/-- What users do. Factories and clients are numbered as they were made. -/
inductive Action where
  | newClient (factory : Nat) (arguments : List Json)
  | fromDescriptor (factory : Nat) (d : Descriptor)
  | cloneFactory
  | drop (client : Nat)
  | command (client : Nat) (call : Call)
  | getOrCreate (d : Descriptor)
  /-- The same by the function that clients are given. -/
  | lookup (d : Descriptor)
  | get (f : Fingerprint)
  | contains (f : Fingerprint)

/-- What users are answered. -/
inductive Answer where
  | made (c : Client)
  | refused (e : ConstructionError)
  | handle (id : HandleId)
  | found (id : Option HandleId)
  | known (b : Bool)
  | outcome (call : Call) (o : Outcome call.result.Value)
  | nothing

open SharedRegistry (creations creations_append)

variable {H σ : Type}

/-- Makes a client, if there is the factory. -/
def make (s : Host H σ) (factory : Nat) (made : Except ConstructionError Client) : Host H σ × Answer :=
  if factory < s.factories then
    match made with
    | .ok c => ({ s with clients := s.clients ++ [some c] }, .made c)
    | .error e => (s, .refused e)
  else (s, .nothing)

/-- Runs an operation of a client, if it is there. -/
def command (kind : HandleKind H σ) (s : Host H σ) (k : Nat) (call : Call) : Host H σ × Answer :=
  match s.clients[k]? with
  | some (some c) =>
    let a := c.call kind s.registry s.world call
    ({ s with
        world := a.world
        registry := a.registry
        clients := s.clients.set k (some a.client)
        events := s.events ++ a.events }, .outcome call a.outcome)
  | _ => (s, .nothing)

/-- Finds the handle for a descriptor or creates it. -/
def resolve (kind : HandleKind H σ) (s : Host H σ) (d : Descriptor) : Host H σ × Answer :=
  let e := s.registry.getOrCreate kind.create d
  ({ s with registry := e.registry, events := s.events ++ e.events }, .handle e.handle)

/-- What an action does. -/
def act (kind : HandleKind H σ) (s : Host H σ) : Action → Host H σ × Answer
  | .newClient factory arguments => s.make factory (Client.ofArguments arguments)
  | .fromDescriptor factory d => s.make factory (.ok { descriptor := d })
  | .cloneFactory => ({ s with factories := s.factories + 1 }, .nothing)
  | .drop k => ({ s with clients := s.clients.set k none }, .nothing)
  | .command k call => s.command kind k call
  | .getOrCreate d => s.resolve kind d
  | .lookup d => s.resolve kind d
  | .get f => (s, .found (s.registry.probe f))
  | .contains f => (s, .known (s.registry.contains f))

/-- The host after actions. -/
def run (kind : HandleKind H σ) (s : Host H σ) (actions : List Action) : Host H σ :=
  actions.foldl (fun s a => (s.act kind a).1) s

/-- The host after actions, from one factory of an empty registry. -/
def reached (kind : HandleKind H σ) (w : σ) (actions : List Action) : Host H σ := run kind { world := w } actions

/-- The action is one that makes or drops a client, clones a factory or only looks. -/
def Action.isInert : Action → Bool
  | .newClient .. => true
  | .fromDescriptor .. => true
  | .cloneFactory => true
  | .drop _ => true
  | .get _ => true
  | .contains _ => true
  | _ => false

variable {kind : HandleKind H σ}

theorem make_registry (s : Host H σ) (factory : Nat) (made : Except ConstructionError Client) :
    (s.make factory made).1.registry = s.registry ∧ (s.make factory made).1.events = s.events := by
  unfold make
  split
  · cases made <;> exact ⟨rfl, rfl⟩
  · exact ⟨rfl, rfl⟩

/-- Nothing is looked up for a client that is made, nor for one that is dropped. -/
theorem act_of_isInert (s : Host H σ) {a : Action} (h : a.isInert = true) :
    (s.act kind a).1.registry = s.registry ∧ (s.act kind a).1.events = s.events := by
  cases a with
  | newClient factory arguments => exact s.make_registry factory _
  | fromDescriptor factory d => exact s.make_registry factory _
  | command k call => cases h
  | getOrCreate d => cases h
  | lookup d => cases h
  | _ => exact ⟨rfl, rfl⟩

/-! ## Entries and created handles -/

theorem creations_getOrCreate (create : Descriptor → H) (r : Registry H) (d : Descriptor) :
    (r.getOrCreate create d).registry.keys = r.keys ++ creations (r.getOrCreate create d).events := by
  cases h : r.probe d.fingerprint with
  | some id =>
    rw [Registry.getOrCreate_of_eq_some create h]
    simp
  | none =>
    have hget : r.getOrCreate create d = r.enter create d := by simp [Registry.getOrCreate, h]
    rw [hget, Registry.enter_of_eq_none create h, Registry.keys_insert]
    simp

theorem creations_bind (create : Descriptor → H) (r : Registry H) (c : Client) :
    (c.bind r create).registry.keys = r.keys ++ creations (c.bind r create).events := by
  cases h : c.handle with
  | some id =>
    rw [Client.bind_of_eq_some h]
    simp
  | none =>
    have hbound : creations [.bound c.fingerprint c.descriptor.mode] = [] := rfl
    rw [Client.bind_of_eq_none h, creations_append, hbound, List.append_nil]
    exact creations_getOrCreate create r c.descriptor

/-- An operation is one of a client that is there, or does nothing. -/
theorem command_cases (kind : HandleKind H σ) (s : Host H σ) (k : Nat) (call : Call) :
    (∃ c, s.clients[k]? = some (some c) ∧ s.command kind k call =
      ({ s with
          world := (c.call kind s.registry s.world call).world
          registry := (c.call kind s.registry s.world call).registry
          clients := s.clients.set k (some (c.call kind s.registry s.world call).client)
          events := s.events ++ (c.call kind s.registry s.world call).events },
        .outcome call (c.call kind s.registry s.world call).outcome)) ∨
    (∀ c, s.clients[k]? ≠ some (some c)) ∧ s.command kind k call = (s, .nothing) := by
  cases h : s.clients[k]? with
  | none => exact Or.inr ⟨by simp, by simp [command, h]⟩
  | some client =>
    cases client with
    | none => exact Or.inr ⟨by simp, by simp [command, h]⟩
    | some c => exact Or.inl ⟨c, rfl, by simp [command, h]⟩

/-- The handles that were created are those of the entries. -/
theorem creations_act {s : Host H σ} (hs : creations s.events = s.registry.keys) (a : Action) :
    creations (s.act kind a).1.events = (s.act kind a).1.registry.keys := by
  have hresolve : ∀ d, creations (s.resolve kind d).1.events = (s.resolve kind d).1.registry.keys := by
    intro d
    rw [resolve, creations_append, hs]
    exact (creations_getOrCreate kind.create s.registry d).symm
  cases a with
  | command k call =>
    rw [act]
    rcases s.command_cases kind k call with ⟨c, _, hc⟩ | ⟨_, hc⟩
    · rw [hc, creations_append, hs, Client.keys_call]
      exact (creations_bind kind.create s.registry c).symm
    · rw [hc]
      exact hs
  | getOrCreate d => exact hresolve d
  | lookup d => exact hresolve d
  | newClient factory arguments =>
    rw [(s.act_of_isInert rfl).1, (s.act_of_isInert rfl).2]
    exact hs
  | fromDescriptor factory d =>
    rw [(s.act_of_isInert rfl).1, (s.act_of_isInert rfl).2]
    exact hs
  | _ => exact hs

theorem wellFormed_act {s : Host H σ} (hs : s.registry.WellFormed) (a : Action) :
    (s.act kind a).1.registry.WellFormed := by
  cases a with
  | command k call =>
    rw [act]
    rcases s.command_cases kind k call with ⟨c, _, hc⟩ | ⟨_, hc⟩
    · rw [hc]
      exact Client.wellFormed_call kind s.world call hs
    · rw [hc]
      exact hs
  | getOrCreate d => exact hs.getOrCreate kind.create d
  | lookup d => exact hs.getOrCreate kind.create d
  | newClient factory arguments =>
    rw [(s.act_of_isInert rfl).1]
    exact hs
  | fromDescriptor factory d =>
    rw [(s.act_of_isInert rfl).1]
    exact hs
  | _ => exact hs

end Host

end Tether
