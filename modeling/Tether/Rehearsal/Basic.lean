import Tether.Client
import Tether.Handle.Live
import Tether.Rehearsal.Server

namespace Tether

/-! # Rehearsals

A rehearsal runs operations of clients, which share one registry of live handles, against a scripted server.
-/

/-- The live handles that a rehearsal uses. -/
def ScriptedServer.handles : HandleKind (LiveHandle Connection) ScriptedServer :=
  LiveHandle.kind (Network.transport ScriptedServer.network)

/-- Clients and the server that they talk to. -/
structure Rehearsal where
  server : ScriptedServer
  registry : Registry (LiveHandle Connection) := {}
  clients : List Client := []

/-- An operation of a client, before which a reply may be added to the script. -/
structure RehearsalStep where
  client : Nat
  call : Call
  reply : Option Reaction := none

/-- What a step shows. -/
structure StepView where
  type : ResultType
  outcome : Outcome type.Value
  /-- The handle of the client has a connection; a client that is not bound has no handle. -/
  isConnected : Option Bool
  served : List Served

namespace Rehearsal

/-- The clients that arguments describe. -/
def clientsOf (arguments : List Json) : Except ConstructionError (List Client) :=
  arguments.mapM fun argument => Client.ofArguments [argument]

/-- The handle of a client has a connection. -/
def isConnected (r : Registry (LiveHandle Connection)) (c : Client) : Option Bool :=
  (c.handle.bind r.handle?).map LiveHandle.isConnected

/-- Runs a step, if there is such a client. -/
def step (r : Rehearsal) (s : RehearsalStep) : Option (StepView × Rehearsal) := do
  let c ← r.clients[s.client]?
  let server := { (s.reply.toList.foldl ScriptedServer.queue r.server) with served := [] }
  let called := c.call ScriptedServer.handles r.registry server s.call
  let view := ⟨s.call.result, called.outcome, isConnected called.registry called.client, called.world.served⟩
  some (view, ⟨called.world, called.registry, r.clients.set s.client called.client⟩)

/-- Runs steps one after another. -/
def runSteps (r : Rehearsal) : List RehearsalStep → Option (List StepView × Rehearsal)
  | [] => some ([], r)
  | s :: rest => do
    let (view, r) ← r.step s
    let (views, r) ← runSteps r rest
    some (view :: views, r)

end Rehearsal

end Tether
