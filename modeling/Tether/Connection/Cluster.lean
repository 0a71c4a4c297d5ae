import Tether.Descriptor.Plan
import Tether.Network.Setup

namespace Tether

/-! # Joining a cluster

A node of a cluster is greeted with `PING`, and with `READONLY` where replicas may be read, before it is used.
One node that can be reached is enough, and it is asked for the slots of the cluster.
-/

namespace Command

/-- Asks a node whether it is there. -/
def ping : Command := ofTexts ["PING"]

/-- Asks a replica to answer itself. -/
def readOnly : Command := ofTexts ["READONLY"]

/-- Asks for the slots of a cluster. -/
def clusterSlots : Command := ofTexts ["CLUSTER", "SLOTS"]

end Command

namespace Network

variable {σ : Type}

/-- A link to a node of a cluster. -/
def join (net : Network σ) (readFromReplicas : Bool) (n : Node) : Attempt σ Link := do
  let l ← net.connect n
  discard (net.requestAs l Command.ping .text)
  if readFromReplicas then discard (net.request l Command.readOnly)
  pure l

/-- Links to all nodes that can be joined. -/
def joinAll (net : Network σ) (readFromReplicas : Bool) : List Node → Attempt σ (List (Node × Link))
  | [] => pure []
  | n :: rest => do
    let first ← (net.join readFromReplicas n).settled
    let others ← net.joinAll readFromReplicas rest
    match first with
    | .ok l => pure ((n, l) :: others)
    | .error _ => pure others

/-- A node of a cluster that knows the slots, and a link to it. -/
def joinCluster (net : Network σ) (readFromReplicas : Bool) (seeds : List Node) : Attempt σ (Node × Link) := do
  match ← net.joinAll readFromReplicas seeds with
  | [] => Attempt.fail .noSeed
  | joined :: _ => do
    discard (net.request joined.2 Command.clusterSlots)
    pure joined

/-- The number of times that a command is sent again. -/
def retryLimit : Nat := 16

/-- Runs a command on a node of a cluster, on a new link and once more where that can help. The link is the
one to use from then on. -/
def runJoined (net : Network σ) (readFromReplicas : Bool) (n : Node) (c : Command) :
    Nat → Link → σ → Except Halt Reply × Link × σ
  | 0, l, w => ((net.request l c w).1, l, (net.request l c w).2)
  | retries + 1, l, w =>
    match net.request l c w with
    | (.error (.failed e), w) =>
      if e.spoilsConnection then
        match net.join readFromReplicas n w with
        | (.ok l, w) => net.runJoined readFromReplicas n c retries l w
        | (.error _, w) => (.error (.failed e), l, w)
      else if e.isPassing then net.runJoined readFromReplicas n c retries l w
      else (.error (.failed e), l, w)
    | (result, w) => (result, l, w)

end Network

end Tether
