import Tether.Client
import Tether.Config

namespace Tether

/-! # Commands of the command line

Each command makes clients from one argument, runs operations on them, and prints what they give. A command that
fails prints nothing.
-/

/-- A command of the command line. -/
inductive CliCommand where
  | fingerprint
  | ping
  | get (key : String)
  | set (key value : String) (ttlSeconds : Option UInt64)
  | del (keys : List String)
  /-- Increments a key once from each of many clients. -/
  | fanout (clients : Nat) (key : String)
deriving DecidableEq, Repr

/-- Why a command fails. -/
inductive CliFailure where
  | configFile (path : String) (fault : ConfigFileFault)
  | config (fault : ConfigFault)
  | construction (e : ConstructionError)
  | operation (e : OperationError)

namespace CliFailure

/-- The message for a failure. -/
def message : CliFailure → String
  | .configFile path fault => fault.message path
  | .config fault => fault.message
  | .construction e => e.message
  | .operation e => e.message

/-- What caused a failure, where that is known. -/
def cause : CliFailure → Option String
  | .configFile _ fault => fault.cause
  | _ => none

end CliFailure

/-- How a command ends, if it does. -/
inductive CliOutcome where
  | finished (result : Except CliFailure String)
  | waiting

/-- What a command prints once an operation has ended. -/
def CliOutcome.ofOutcome {α : Type} (print : α → String) : Outcome α → CliOutcome
  | .finished (.ok a) => .finished (.ok (print a))
  | .finished (.error e) => .finished (.error (.operation e))
  | .waiting => .waiting

/-- A command after it has run. -/
structure CliRun (H σ : Type) where
  outcome : CliOutcome
  registry : Registry H
  world : σ

namespace Fanout

/-- The highest of the numbers that the clients got, or the first failure. -/
def highest : List (Except OperationError Int64) → Except OperationError (Option Int64)
  | [] => .ok none
  | .error e :: _ => .error e
  | .ok n :: rest =>
    match highest rest with
    | .error e => .error e
    | .ok none => .ok (some n)
    | .ok (some m) => .ok (some (if n < m then m else n))

/-- What is printed for a number of clients and of handles, and the highest number. -/
def report (clients handles : Nat) (key : String) (highest : Option Int64) : String :=
  "clients:     " ++ Decimal.ofNat clients ++ "\n" ++
    "handles:     " ++ Decimal.ofNat handles ++ "\n" ++
    (match highest with
      | none => ""
      | some n => key ++ ": " ++ Decimal.ofInt n.toInt ++ "\n")

/-- How a fan-out ends, given the results of the clients that ended, in the order in which they did: with the first
failure, or once all have ended. -/
def outcome (clients handles : Nat) (key : String) (results : List (Except OperationError Int64)) : CliOutcome :=
  match highest results with
  | .error e => .finished (.error (.operation e))
  | .ok n => if results.length < clients then .waiting else .finished (.ok (report clients handles key n))

end Fanout

namespace CliCommand

variable {H σ : Type}

/-- Increments a key from each of several clients. -/
def incrementAll (kind : HandleKind H σ) (key : String) :
    List Client → Registry H → σ → List (Outcome Int64) × Registry H × σ
  | [], r, w => ([], r, w)
  | c :: rest, r, w =>
    let called := c.call kind r w (.incr key)
    let (outcomes, r, w) := incrementAll kind key rest called.registry called.world
    (called.outcome :: outcomes, r, w)

/-- Runs an operation of a client and prints its result. -/
def perform (kind : HandleKind H σ) (c : Client) (r : Registry H) (w : σ) (k : Call)
    (print : k.result.Value → String) : CliRun H σ :=
  let called := c.call kind r w k
  ⟨.ofOutcome print called.outcome, called.registry, called.world⟩

/-- Runs a command with a client that its argument made; a fan-out makes more of the same. -/
def runWith (kind : HandleKind H σ) (c : Client) (r : Registry H) (w : σ) : CliCommand → CliRun H σ
  | .fingerprint =>
    let text := c.fingerprint.text ++ "\n  mode:      " ++ c.descriptor.mode.text ++
      "\n  addresses: " ++ ", ".intercalate c.descriptor.addresses ++ "\n"
    ⟨.finished (.ok text), r, w⟩
  | .ping => perform kind c r w .ping fun (s : String) => s ++ "\n"
  | .get key => perform kind c r w (.get key) fun (s : Option String) => s.getD "(nil)" ++ "\n"
  | .set key value ttl => perform kind c r w (.set key (.text value) (ttl.map Duration.ofSeconds)) fun _ => "OK\n"
  | .del keys => perform kind c r w (.del keys) fun (n : Int64) => Decimal.ofInt n.toInt ++ "\n"
  | .fanout clients key =>
    let (outcomes, r, w) := incrementAll kind key (List.replicate clients c) r w
    ⟨Fanout.outcome clients r.size key (outcomes.filterMap Outcome.result?), r, w⟩

/-- Runs a command. A fan-out of no clients makes none, and does not look at the argument. -/
def run (kind : HandleKind H σ) (argument : Json) (r : Registry H) (w : σ) (command : CliCommand) : CliRun H σ :=
  match command with
  | .fanout 0 key => ⟨Fanout.outcome 0 r.size key [], r, w⟩
  | _ =>
    match Client.ofArguments [argument] with
    | .error e => ⟨.finished (.error (.construction e)), r, w⟩
    | .ok c => command.runWith kind c r w

end CliCommand

end Tether
