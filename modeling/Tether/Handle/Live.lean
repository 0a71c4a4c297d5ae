import Tether.Connection.Basic
import Tether.Handle.Slot

namespace Tether

/-! # Live handles

A live handle opens its connection for the first command and keeps it. A command that fails because the connection
is gone empties the slot, and the next command opens another; nothing is sent twice, and no other failure
touches the slot.
-/

/-- How connections of a type `C` are opened and used in a world `σ`. -/
structure Transport (C σ : Type) where
  connect : Descriptor → Attempt σ C
  /-- Runs a command for which there is a limit. -/
  run : Option Duration → Command → C → σ → Except Halt Reply × C × σ

/-- The connections over a network. -/
def Network.transport {σ : Type} (net : Option Duration → Network σ) : Transport Connection σ where
  connect d := Connection.ofPlan (limited net) d.options.dialTimeout d.options.clientName d.plan
  run := Connection.run (limited net)

/-- A handle that keeps a connection. -/
structure LiveHandle (C : Type) where
  descriptor : Descriptor
  slot : Slot C := {}

namespace LiveHandle

variable {C σ : Type}

/-- A handle that has not connected yet. -/
def new (d : Descriptor) : LiveHandle C := { descriptor := d }

/-- There is a connection. -/
def isConnected (h : LiveHandle C) : Bool := h.slot.connection.isSome

/-- The attempt to connect. -/
def connect (t : Transport C σ) (h : LiveHandle C) : Attempt σ C := t.connect h.descriptor

/-- The connection with its generation, which is opened where there is none. -/
def acquire (t : Transport C σ) (h : LiveHandle C) (w : σ) : Outcome (C × UInt64) × LiveHandle C × σ :=
  match h.slot.current with
  | some current => (.success current, h, w)
  | none =>
    match Outcome.within h.descriptor.options.dialTimeout (h.connect t w).1 with
    | .finished (.ok c) =>
      let slot := h.slot.install c
      (.success (c, slot.generation), { h with slot }, (h.connect t w).2)
    | .finished (.error e) => (.failed e, h, (h.connect t w).2)
    | .waiting => (.waiting, h, (h.connect t w).2)

/-- The handle after a command on a connection of this generation. -/
def settle (h : LiveHandle C) (generation : UInt64) (c : C) (outcome : Outcome Reply) : LiveHandle C :=
  let slot := h.slot.update generation c
  match outcome with
  | .finished (.error (.store e)) =>
    if e.isDisconnect then { h with slot := slot.discard generation } else { h with slot }
  | _ => { h with slot }

/-- Runs a command. -/
def query (t : Transport C σ) (command : Command) (h : LiveHandle C) (w : σ) :
    Outcome Reply × LiveHandle C × σ :=
  match h.acquire t w with
  | (.finished (.ok (c, generation)), h, w) =>
    let (result, c, w) := t.run h.descriptor.options.responseTimeout command c w
    let outcome := Outcome.within h.descriptor.options.responseTimeout result
    (outcome, h.settle generation c outcome, w)
  | (.finished (.error e), h, w) => (.failed e, h, w)
  | (.waiting, h, w) => (.waiting, h, w)

/-- Live handles as a kind. -/
def kind (t : Transport C σ) : HandleKind (LiveHandle C) σ where
  create := new
  query := query t

end LiveHandle

end Tether
