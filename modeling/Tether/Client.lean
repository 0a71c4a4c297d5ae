import Tether.Descriptor.OfJson
import Tether.Descriptor.Show
import Tether.Handle.Basic
import Tether.Registry

namespace Tether

/-! # Clients

Making a client needs one argument that describes a connection, and touches nothing. The first command binds the
client to the handle of its descriptor, once and for all (`Client.bind`); every command is run on that handle
and its reply converted.
-/

/-- A client: its descriptor, and its handle once it has one. -/
structure Client where
  descriptor : Descriptor
  handle : Option HandleId := none
deriving DecidableEq, Repr

/-- Why a client cannot be made. -/
inductive ConstructionError where
  | argumentCount (count : Nat)
  | descriptor (e : DescriptorError)

/-- The message for an error. -/
def ConstructionError.message : ConstructionError → String
  | .argumentCount count => "must specify one argument, got " ++ Decimal.ofNat count
  | .descriptor e => e.message

/-- Where a client is in its life. -/
inductive ClientState where
  | configured
  | bound
deriving DecidableEq, Repr

/-- The name of a state. -/
def ClientState.text : ClientState → String
  | .configured => "configured"
  | .bound => "bound"

/-- A state in diagnostics. -/
def ClientState.debugText : ClientState → String
  | .configured => "Configured"
  | .bound => "Bound"

/-- A client that has its handle. -/
structure Bound (H : Type) where
  client : Client
  registry : Registry H
  handle : HandleId
  events : List Event

/-- A client after a command. -/
structure Called (H σ α : Type) where
  outcome : Outcome α
  client : Client
  registry : Registry H
  world : σ
  events : List Event

namespace Client

/-- The client that arguments describe. -/
def ofArguments : List Json → Except ConstructionError Client
  | [argument] =>
    match Descriptor.ofJson argument with
    | .ok d => .ok { descriptor := d }
    | .error e => .error (.descriptor e)
  | arguments => .error (.argumentCount arguments.length)

/-- The fingerprint of the client's descriptor. -/
def fingerprint (c : Client) : Fingerprint := c.descriptor.fingerprint

/-- Where the client is in its life. -/
def state (c : Client) : ClientState := if c.handle.isSome then .bound else .configured

/-- The client in diagnostics. -/
def debugText (c : Client) : String :=
  Record.openText "Client" [("descriptor", c.descriptor.debugText), ("state", c.state.debugText)]

variable {H σ : Type}

/-- Gives the client its handle, unless it has one. -/
def bind (c : Client) (r : Registry H) (create : Descriptor → H) : Bound H :=
  match c.handle with
  | some id => ⟨c, r, id, []⟩
  | none =>
    let e := r.getOrCreate create c.descriptor
    ⟨{ c with handle := some e.handle }, e.registry, e.handle, e.events ++ [.bound c.fingerprint c.descriptor.mode]⟩

/-- Runs a command on the handle of this number. -/
def queryHandle (kind : HandleKind H σ) (id : HandleId) (command : Command) (r : Registry H) (w : σ) :
    Outcome Reply × Registry H × σ :=
  match r.handle? id with
  | none => (.waiting, r, w)
  | some h =>
    let (outcome, h, w) := kind.query command h w
    (outcome, r.update id h, w)

/-- Runs an operation of a client. -/
def call (kind : HandleKind H σ) (c : Client) (r : Registry H) (w : σ) (k : Call) : Called H σ k.result.Value :=
  let b := c.bind r kind.create
  let (outcome, r, w) := queryHandle kind b.handle k.command b.registry w
  ⟨outcome.bind fun reply => .ofStore (reply.convert k.result), b.client, r, w, b.events⟩

end Client

end Tether
