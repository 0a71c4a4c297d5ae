import Tether.Handle.Live
import Tether.Proofs.Connection.Naming
import Tether.Proofs.Handle.Slot
import Tether.Proofs.Network.Limits
import Tether.Proofs.Run

namespace Tether

/-! # Journeys of commands

Callers give a handle one command after another over a watched network. We keep where each command was sent, what was
on record there before, what came back and how the command ended. A failure that spoils a link may leave the slot of
the handle as it is: exactly a malformed reply does (`isLoss_within_iff`).
-/

/-! ## Callers' commands on their way -/

/-- The handle takes the end of a command for the end of its connection. -/
def Outcome.isLoss : Outcome Reply → Bool
  | .finished (.error (.store e)) => e.isDisconnect
  | _ => false

/-- A caller's command on its way. -/
structure Trip where
  command : Command
  /-- The link that the command was sent on; without one it is not sent. -/
  link : Option Link
  /-- What was exchanged on the link before. -/
  before : List Exchange
  /-- What came back. -/
  response : Option Response
  outcome : Outcome Reply

/-- What came back spoilt the link. -/
def Trip.isSpoilt (t : Trip) : Bool := t.response.any (·.spoils)

/-- A handle over a watched network, and the commands that callers have given it, in order. -/
structure Journey (σ : Type) where
  handle : LiveHandle Connection
  world : Watched σ
  trips : List Trip := []

variable {σ : Type}

namespace Journey

/-- A new handle. -/
def start (d : Descriptor) (world : σ) : Journey σ := ⟨.new d, ⟨world, []⟩, []⟩

/-- The link on which the command after it is sent. -/
def link? (net : Option Duration → Network σ) (limit : Option Duration) :
    Outcome (Connection × UInt64) → Watched σ → Option Link
  | .finished (.ok (c, _)), w => (c.take (Network.watching net) limit w).1.toOption
  | _, _ => none

/-- A caller gives the handle a command. -/
def next (net : Option Duration → Network σ) (j : Journey σ) (command : Command) : Journey σ :=
  let transport := Network.transport (Network.watching net)
  let (acquired, _, opened) := j.handle.acquire transport j.world
  let (outcome, handle, world) := j.handle.query transport command j.world
  let link := link? (Network.limited net) j.handle.descriptor.options.responseTimeout acquired opened
  let before := link.elim [] opened.exchanges
  let response := link.bind fun l => ((world.exchanges l)[before.length]?).map (·.response)
  ⟨handle, world, j.trips ++ [⟨command, link, before, response, outcome⟩]⟩

/-- Callers give the handle commands one after another. -/
def run (net : Option Duration → Network σ) (j : Journey σ) (commands : List Command) : Journey σ :=
  commands.foldl (next net) j

/-- What was exchanged on a link before the first caller's command on it. -/
def prelude (j : Journey σ) (l : Link) : List Exchange :=
  ((j.trips.find? fun t => decide (t.link = some l)).map (·.before)).getD (j.world.exchanges l)

end Journey

/-! ## Losses -/

namespace LiveHandle

variable {C : Type} {h : LiveHandle C}

/-- Only what the handle takes for a loss empties the slot. -/
theorem connection_settle {c : C} {generation : UInt64} (hcurrent : h.slot.current = some (c, generation))
    (c' : C) (outcome : Outcome Reply) :
    (h.settle generation c' outcome).slot.connection = if outcome.isLoss then none else some c' := by
  obtain ⟨hconnection, rfl⟩ := Slot.current_eq_some_iff.1 hcurrent
  have hupdate : h.slot.update h.slot.generation c' = { h.slot with connection := some c' } := by
    simp [Slot.update, Slot.holds, hconnection]
  unfold settle
  rw [hupdate]
  cases outcome with
  | waiting => rfl
  | finished result =>
    cases result with
    | ok r => rfl
    | error failure =>
      cases failure with
      | timeout limit => rfl
      | store e => cases he : e.isDisconnect <;> simp [Outcome.isLoss, he]

theorem generation_settle (generation : UInt64) (c : C) (outcome : Outcome Reply) :
    (h.settle generation c outcome).slot.generation = h.slot.generation := by
  unfold settle
  split
  · split <;> simp
  · simp

theorem descriptor_settle (generation : UInt64) (c : C) (outcome : Outcome Reply) :
    (h.settle generation c outcome).descriptor = h.descriptor := by
  unfold settle
  split
  · split <;> rfl
  · rfl

end LiveHandle

theorem isDisconnect_answered (e : ServerError) : (StoreError.answered e).isDisconnect = false := by
  have hspoils := spoilsConnection_answered e
  unfold StoreError.isDisconnect
  by_contra hkind
  have hio : (StoreError.answered e).kind = .ioError := by simpa using hkind
  unfold StoreError.spoilsConnection at hspoils
  rw [hio] at hspoils
  cases hspoils

namespace Journey

variable {j : Journey σ} (net : Option Duration → Network σ)

/-! ## What becomes of a command -/

/-- Every command goes on its way. -/
theorem map_command_run (commands : List Command) :
    (run net j commands).trips.map (·.command) = j.trips.map (·.command) ++ commands :=
  Run.map_log (fun _ _ => List.map_append) j commands

/-! ## What is on record -/

/-- The command is on record behind what was exchanged before. -/
def Sent (w : Watched σ) (t : Trip) (l : Link) : Prop :=
  l < w.traces.length ∧ ∃ response, t.response = some response ∧ t.before ++ [⟨t.command, response⟩] <+: w.exchanges l

section Recorded

variable {h' : LiveHandle Connection} {w' : Watched σ} {t : Trip}

end Recorded

end Journey

end Tether
