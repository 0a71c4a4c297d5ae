import Tether.Descriptor.Plan
import Tether.Network.Setup

namespace Tether

/-! # Finding a master

Sentinels know the masters and where they are. The first sentinel that tells its masters counts; of these, the
first one that has the name, is up, and says itself that it is a master is taken.
-/

namespace Command

/-- Asks a sentinel for its masters. -/
def sentinelMasters : Command := ofTexts ["SENTINEL", "MASTERS"]

/-- Asks a node for its role. -/
def role : Command := ofTexts ["ROLE"]

end Command

/-- The master has the name, and no sentinel thinks that it is down. -/
def isUsableMaster (name : String) (master : List (String × String)) : Bool :=
  let flagged (word : String) : Bool := Split.occurs word.toList ((master.lookup "flags").getD "").toList
  master.lookup "name" = some name && flagged "master" && !flagged "s_down" && !flagged "o_down"

/-- Where a master is, if it is usable. -/
def masterEndpoint? (name : String) (master : List (String × String)) : Option Endpoint :=
  if isUsableMaster name master then do
    let host ← master.lookup "ip"
    let port ← (master.lookup "port").bind fun p => Decimal.natural? 65535 p.toList
    some ⟨host, UInt16.ofNat port⟩
  else none

/-- A role as a node tells it: the first item is its name, in any case of letters. -/
def isMasterRole (r : Reply) : Bool :=
  match r.toList fun item => Except.ok item with
  | .ok (first :: _) =>
    match first.toText with
    | .ok role => role.toList.map Char.toLower = "master".toList
    | .error _ => false
  | _ => false

namespace Network

variable {σ : Type}

/-- The masters that a sentinel tells on a link. -/
def mastersOn (net : Network σ) (l : Link) : Attempt σ (List (List (String × String))) := do
  let r ← net.request l Command.sentinelMasters
  match r.toList Reply.toTable with
  | .ok masters => pure masters
  | .error e => Attempt.fail e

/-- The masters that a sentinel knows; where the link turns out to be spoilt it is asked once more on another. -/
def mastersOf (net : Network σ) (sentinel : Node) : Attempt σ (List (List (String × String))) := do
  let l ← net.connect sentinel
  match ← (net.mastersOn l).settled with
  | .ok masters => pure masters
  | .error e => if e.spoilsConnection then net.connect sentinel >>= net.mastersOn else Attempt.fail e

/-- The node says itself that it is a master. -/
def isMaster (net : Network σ) (n : Node) : Attempt σ Bool := do
  let answer ← Attempt.settled do
    let l ← net.connect n
    net.request l Command.role
  match answer with
  | .ok r => pure (isMasterRole r)
  | .error _ => pure false

/-- The first of several nodes that is a master. -/
def firstMaster (net : Network σ) : List Node → Attempt σ Node
  | [] => Attempt.fail .noMaster
  | n :: rest => do if ← net.isMaster n then pure n else net.firstMaster rest

/-- The master of a name. -/
def findMaster (net : Network σ) (sentinels : List Node) (name : String) (access : Access) : Attempt σ Node := do
  let masters ← Attempt.firstOf .noMaster (sentinels.map net.mastersOf)
  net.firstMaster ((masters.filterMap (masterEndpoint? name)).map access.node)

end Network

end Tether
