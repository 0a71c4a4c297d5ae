import Tether.Connection.Cluster
import Tether.Connection.Sentinel

namespace Tether

/-! # Connections

A connection carries the commands of a handle. The one to a single node is managed: it is opened in several tries, and
it opens a new link by itself, again in several tries, as soon as its link is spoilt, without naming the client again.
The next command waits for that link, and fails if it cannot be had. The connection to a master that sentinels found
stays on its link. The one to a cluster moves to a new link and sends again.
-/

/-- What a managed connection has for a link. -/
inductive Uplink where
  | up (link : Link)
  /-- A link is being opened, and this is what will come of it. No command has seen that yet. -/
  | coming (result : Except Halt Link)
  /-- No link could be opened, and none will be. -/
  | down (e : StoreError)

/-- An open connection. -/
inductive Connection where
  | managed (node : Node) (uplink : Uplink)
  | plain (link : Link)
  | cluster (node : Node) (readFromReplicas : Bool) (link : Link)

namespace Network

variable {σ : Type}

/-- The number of times that a managed connection tries again to open a link. -/
def reopenLimit : Nat := 6

/-- A link for a managed connection. -/
def connectAtLength (net : Network σ) (n : Node) : Attempt σ Link :=
  (net.connect n).retried net.pause reopenLimit

end Network

namespace Connection

variable {σ : Type}

/-! ## Running commands -/

/-- Opens a new link for a managed connection. Nobody waits for that, and so it has no limit. -/
def reopen (net : Option Duration → Network σ) (n : Node) (w : σ) : Connection × σ :=
  (.managed n (.coming ((net none).connectAtLength n w).1), ((net none).connectAtLength n w).2)

/-- What comes of the link that a managed connection was opening, for the command that has waited for it. Where the
connection failed another link is opened, of which the command sees nothing. -/
def arrive (net : Option Duration → Network σ) (n : Node) (w : σ) :
    Except Halt Link → Except Halt Link × Connection × σ
  | .ok l => (.ok l, .managed n (.up l), w)
  | .error (.failed e) =>
    if e.isDisconnect then (.error (.failed e.reopening), reopen net n w)
    else (.error (.failed e.reopening), .managed n (.down e.reopening), w)
  | .error .waiting => (.error .waiting, .managed n (.coming (.error .waiting)), w)

/-- The link to send a command on, and what has become of the connection. -/
def take (net : Option Duration → Network σ) (limit : Option Duration) :
    Connection → σ → Except Halt Link × Connection × σ
  | .managed n (.up l), w => (.ok l, .managed n (.up l), w)
  | .managed n (.down e), w => (.error (.failed e), .managed n (.down e), w)
  | .managed n (.coming result), w =>
    match (net limit).await w with
    | (true, w) => arrive net n w result
    | (false, w) => (.error .waiting, .managed n (.coming result), w)
  | .plain l, w => (.ok l, .plain l, w)
  | .cluster n readFromReplicas l, w => (.ok l, .cluster n readFromReplicas l, w)

/-- Sends a command on the link that was taken, and gives what has become of the connection. -/
def carry (net : Option Duration → Network σ) (limit : Option Duration) (c : Command) (l : Link) :
    Connection → σ → Except Halt Reply × Connection × σ
  | .managed n uplink, w =>
    match (net limit).request l c w with
    | (.error (.failed e), w) =>
      if e.spoilsConnection then (.error (.failed e), reopen net n w)
      else (.error (.failed e), .managed n uplink, w)
    | (result, w) => (result, .managed n uplink, w)
  | .plain l', w => (((net limit).request l c w).1, .plain l', ((net limit).request l c w).2)
  | .cluster n readFromReplicas _, w =>
    let (result, l, w) := (net limit).runJoined readFromReplicas n c Network.retryLimit l w
    (result, .cluster n readFromReplicas l, w)

/-- Runs a command on a connection within a limit, and gives what has become of the connection. -/
def run (net : Option Duration → Network σ) (limit : Option Duration) (c : Command) (connection : Connection)
    (w : σ) : Except Halt Reply × Connection × σ :=
  match connection.take net limit w with
  | (.ok l, connection, w) => connection.carry net limit c l w
  | (.error halt, connection, w) => (.error halt, connection, w)

/-! ## Opening -/

/-- Opens a connection to one node. -/
def toNode (net : Network σ) (n : Node) : Attempt σ Connection := do
  let l ← net.connectAtLength n
  pure (.managed n (.up l))

/-- Opens a connection to the master that sentinels know. -/
def toMaster (net : Network σ) (sentinels : List Node) (masterName : String) (access : Access) :
    Attempt σ Connection := do
  let n ← net.findMaster sentinels masterName access
  let l ← net.connect n
  pure (.plain l)

/-- Opens a connection to a cluster. -/
def toCluster (net : Network σ) (seeds : List Node) (readFromReplicas : Bool) : Attempt σ Connection := do
  let joined ← net.joinCluster readFromReplicas seeds
  pure (.cluster joined.1 readFromReplicas joined.2)

/-- Names the client on a connection, where it has a name. -/
def nameClient (net : Option Duration → Network σ) (limit : Option Duration) (c : Connection) :
    Option String → Attempt σ Connection
  | none => pure c
  | some name => fun w =>
    match c.run net limit (Command.setName name) w with
    | (.ok _, c, w) => (.ok c, w)
    | (.error halt, _, w) => (.error halt, w)

/-- Opens the connection that a plan describes within a limit; the links of a cluster are not named. -/
def ofPlan (net : Option Duration → Network σ) (limit : Option Duration) (clientName : Option String) :
    ConnectionPlan → Attempt σ Connection
  | .single n => do nameClient net limit (← toNode (net limit) n) clientName
  | .sentinel sentinels masterName access => do
    nameClient net limit (← toMaster (net limit) sentinels masterName access) clientName
  | .cluster seeds login readFromReplicas => toCluster (net limit) (seeds.map login.node) readFromReplicas

end Connection

end Tether
