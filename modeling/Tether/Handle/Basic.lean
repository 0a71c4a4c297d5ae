import Tether.Descriptor.Basic
import Tether.Store.Command

namespace Tether

/-! # Handles

A handle stands for one store and is shared by all clients of that store. What a handle is differs by kind;
every kind creates one from a descriptor, without touching the store, and runs commands on it. What a command
changes outside the handle is in the world that it runs in.
-/

/-- How an operation ends, if it does. -/
inductive Outcome (α : Type) where
  | finished (result : Except OperationError α)
  /-- Nothing more will come and no limit ends it. -/
  | waiting

namespace Outcome

/-- An operation that failed. -/
def failed {α : Type} (e : OperationError) : Outcome α := .finished (.error e)

/-- An operation that ended well. -/
def success {α : Type} (a : α) : Outcome α := .finished (.ok a)

/-- Goes on with what an operation gave. -/
def bind {α β : Type} (o : Outcome α) (f : α → Outcome β) : Outcome β :=
  match o with
  | .finished (.ok a) => f a
  | .finished (.error e) => .finished (.error e)
  | .waiting => .waiting

/-- The result of an operation, if it ended. -/
def result? {α : Type} : Outcome α → Option (Except OperationError α)
  | .finished result => some result
  | .waiting => none

/-- The result of a step that only the store can fail. -/
def ofStore {α : Type} : Except StoreError α → Outcome α
  | .ok a => .success a
  | .error e => .failed (.store e)

end Outcome

/-- A kind of handles `H` that run commands in a world `σ`. -/
structure HandleKind (H σ : Type) where
  create : Descriptor → H
  query : Command → H → σ → Outcome Reply × H × σ

end Tether
