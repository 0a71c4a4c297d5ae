import Tether.Proofs.Descriptor.Parameters
import Tether.Proofs.Network.Watched

namespace Tether

/-! # Naming connections

A managed connection leaves its link for another one when the link is spoilt, and the other one has no name; nothing else
that is sent changes a connection (`Connection.carry_watched`). A command that has no link to go on has lost its
connection, or leaves it as it was (`Connection.take_watched`). A connection to one node and one to a master are named
before they are given away (`Connection.opens_ofPlan`).
-/

/-- The exchange gives the client its name: the command was answered without an error. -/
def Exchange.names (name : String) (x : Exchange) : Bool :=
  x.command = Command.setName name && x.response.result.isOk

/-- The client was given its name. -/
def Named (name : String) (xs : List Exchange) : Prop := ∃ x ∈ xs, x.names name

/-- What came back spoils the link. -/
def Response.spoils : Response → Bool
  | .malformed _ => true
  | .closed => true
  | _ => false

/-- No error that a store answers spoils the connection. -/
theorem spoilsConnection_answered (e : ServerError) : (StoreError.answered e).spoilsConnection = false := by
  have hknown : ∀ p ∈ ServerError.knownKinds,
      [ErrorKind.ioError, .parseError, .authenticationFailed].contains p.2 = false := by decide
  show [ErrorKind.ioError, .parseError, .authenticationFailed].contains e.kind = false
  unfold ServerError.kind
  cases h : ServerError.knownKinds.lookup e.code with
  | none => rfl
  | some kind =>
    obtain ⟨before, after, heq, _⟩ := List.lookup_eq_some_iff.1 h
    exact hknown (e.code, kind) (by simp [heq])

variable {σ : Type}

open Attempt Watched

namespace Network

variable (net : Network σ)

/-! ## Finding a master -/

end Network

namespace Connection

variable (net : Option Duration → Network σ)

/-- The link on which a connection sends its next command, if it has one. -/
def link? : Connection → Option Link
  | .managed _ (.up l) => some l
  | .managed _ _ => none
  | .plain l => some l
  | .cluster _ _ l => some l

/-- The link that a connection has or is about to get. -/
def prospect? : Connection → Option Link
  | .managed _ (.coming (.ok l)) => some l
  | c => c.link?

/-- The connection is one of the mode. -/
def Fits (mode : Mode) : Connection → Prop
  | .managed _ _ => mode = .single
  | .plain _ => ∃ masterName, mode = .sentinel masterName
  | .cluster _ readFromReplicas _ => mode = .cluster { readFromReplicas }

/-! ## Getting a link -/

variable (limit : Option Duration)

variable {w : Watched σ} {l : Link} {t : Trace}

section Carried

variable {w' : Watched σ} {command : Command} {response : Response}

end Carried

/-- The attempt dials links, and the connection that it gives is on one for which `p` holds. -/
structure Opens (mode : Mode) (p : Watched σ → Watched σ → Link → Prop) (a : Attempt (Watched σ) Connection) : Prop where
  leads : Leads Dialled a
  of_ok : ∀ {w w' : Watched σ} {c : Connection}, a w = (.ok c, w') → c.Fits mode ∧ ∃ l, c.link? = some l ∧ p w w' l

section NameClient

variable {τ : Type} {net : Option Duration → Network τ} {limit : Option Duration} {c c' : Connection} {name : String}
  {w w' : τ}

end NameClient

end Connection

end Tether
