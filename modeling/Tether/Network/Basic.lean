import Tether.Handle.Basic
import Tether.Node

namespace Tether

/-! # Networks

A network reaches nodes and carries requests to them. It is given by what it does in a world `σ`, so that a
network may be anything: a scripted server in memory, or one that refuses everybody. Work on a network is an
`Attempt`: it ends with a value or a failure, or with nothing in the time that it has. How much time that is is for
the network to know, and so there is one for each limit (`Network.limited`).
-/

/-- A link to a node; links are numbered by the network. -/
abbrev Link := Nat

/-- What comes back for a request. -/
inductive Response where
  | reply (r : Reply)
  /-- Something that does not follow the protocol. -/
  | malformed (detail : String)
  | closed
  /-- Nothing, as long as one may wait. -/
  | silence

/-- Why work gives no value. -/
inductive Halt where
  | failed (e : StoreError)
  /-- Nothing more will come, as long as one may wait. -/
  | waiting

/-- Work in a world. -/
abbrev Attempt (σ α : Type) := ExceptT Halt (StateM σ) α

/-- A network in a world, as work meets it that has a certain time. -/
structure Network (σ : Type) where
  /-- Dials a node. -/
  dial : Node → Attempt σ Link
  /-- Sends a command and waits for what comes back. -/
  send : Link → Command → σ → Response × σ
  /-- Waits before another try, and says whether there is time for it. -/
  pause : σ → Bool × σ
  /-- Waits for work that goes on elsewhere, and says whether that has ended in time. -/
  await : σ → Bool × σ

namespace Attempt

variable {σ α : Type}

/-- Work that fails. -/
def fail (e : StoreError) : Attempt σ α := throw (.failed e)

/-- Work whose failure is a value. -/
def settled (a : Attempt σ α) : Attempt σ (Except StoreError α) := fun w =>
  match a w with
  | (.ok x, w) => (.ok (.ok x), w)
  | (.error (.failed e), w) => (.ok (.error e), w)
  | (.error .waiting, w) => (.error .waiting, w)

/-- Work that is tried again where it fails, a number of times and as long as there is time. The last failure is the
one that is seen. -/
def retried (pause : σ → Bool × σ) (a : Attempt σ α) : Nat → Attempt σ α
  | 0 => a
  | tries + 1 => fun w =>
    match a w with
    | (.error (.failed _), w) =>
      match pause w with
      | (true, w) => retried pause a tries w
      | (false, w) => (.error .waiting, w)
    | ended => ended

/-- The value of the first of several pieces of work that gives one, or the failure of the last; `e` is the
failure where there is no work. -/
def firstOf (e : StoreError) : List (Attempt σ α) → Attempt σ α
  | [] => fail e
  | a :: rest => do
    match ← a.settled with
    | .ok x => pure x
    | .error e => firstOf e rest

end Attempt

/-- The result of a request; an error anywhere in the reply is a failure. -/
def Response.result : Response → Except Halt Reply
  | .reply r =>
    match r.firstError? with
    | some e => .error (.failed (.answered e))
    | none => .ok r
  | .malformed detail => .error (.failed (.malformed detail))
  | .closed => .error (.failed .lostConnection)
  | .silence => .error .waiting

namespace Network

variable {σ : Type}

/-- A network where nobody can be reached. -/
def unreachable : Network σ where
  dial _ := Attempt.fail .refusedConnection
  send _ _ w := (.closed, w)
  pause w := (false, w)
  await w := (false, w)

/-- The network for work with this limit: what has no limit has time to wait. -/
def limited (net : Option Duration → Network σ) : Option Duration → Network σ
  | none => { net none with pause := fun w => (true, w), await := fun w => (true, w) }
  | some d => net (some d)

/-- The reply to a command. -/
def request (net : Network σ) (l : Link) (c : Command) : Attempt σ Reply := fun w =>
  ((net.send l c w).1.result, (net.send l c w).2)

/-- The reply to a command, converted. -/
def requestAs (net : Network σ) (l : Link) (c : Command) (t : ResultType) : Attempt σ t.Value := do
  let r ← net.request l c
  match r.convert t with
  | .ok v => pure v
  | .error e => Attempt.fail e

end Network

namespace Outcome

variable {α : Type}

/-- How work ends within a limit: what would wait forever ends with its limit. -/
def within (limit : Option Duration) : Except Halt α → Outcome α
  | .ok a => .success a
  | .error (.failed e) => .failed (.store e)
  | .error .waiting => limit.elim .waiting fun d => .failed (.timeout d)

end Outcome

end Tether
