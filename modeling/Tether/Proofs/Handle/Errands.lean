import Tether.Proofs.Descriptor.Parameters
import Tether.Proofs.Handle.Journey
import Tether.Rehearsal.Server

namespace Tether

/-! # What a handle does for a command

A handle has a connection or opens one, runs the command on it, and looks at how the command ended to know whether to
keep the connection. We watch what the handle has its transport do for each of several commands. We show:

* `LiveHandle.query_observed`: nothing comes of the watching;
* `Service.lawful_visit`: a command for which no connection is opened is not run and leaves the slot as it was, and any
  other is run once and empties the slot exactly if it ends with a loss;
* `Service.slot_follows_outcomes`: so a connection is opened exactly where the command before has left none.
-/

theorem Outcome.exists_of_isLoss {outcome : Outcome Reply} (h : outcome.isLoss = true) :
    ∃ e, outcome = .failed (.store e) ∧ e.isDisconnect = true := by
  unfold isLoss at h
  split at h
  · exact ⟨_, rfl, h⟩
  · cases h

/-! ## Watching a transport -/

/-- What a handle has its transport do. -/
inductive Errand (C : Type) where
  /-- To open a connection, and how that ended. -/
  | connect (result : Except Halt C)
  /-- To run a command on a connection, how that ended, and what has become of the connection. -/
  | run (command : Command) (on : C) (result : Except Halt Reply) (after : C)

/-- A world with a record of the errands in it, in order. -/
structure Observed (C σ : Type) where
  world : σ
  errands : List (Errand C) := []

variable {C σ : Type}

/-- The transport with a record of its errands. -/
def Transport.observed (t : Transport C σ) : Transport C (Observed C σ) where
  connect d w :=
    let (result, world) := t.connect d w.world
    (result, ⟨world, w.errands ++ [.connect result]⟩)
  run limit command c w :=
    let (result, after, world) := t.run limit command c w.world
    (result, after, ⟨world, w.errands ++ [.run command c result after]⟩)

namespace LiveHandle

variable {h : LiveHandle C} (t : Transport C σ)

/-- The connection that is there is used. -/
theorem query_of_connection {c : C} (hc : h.slot.connection = some c) (command : Command) (w : σ) :
    h.query t command w =
      let (result, after, w) := t.run h.descriptor.options.responseTimeout command c w
      let outcome := Outcome.within h.descriptor.options.responseTimeout result
      (outcome, h.settle h.slot.generation after outcome, w) := by
  have hcurrent : h.slot.current = some (c, h.slot.generation) := Slot.current_eq_some_iff.2 ⟨hc, rfl⟩
  unfold query acquire
  simp only [hcurrent]
  rfl

/-- Where no connection can be opened the command ends as the attempt did, and the handle is as it was. -/
theorem query_of_error (hempty : h.slot.connection = none) {halt : Halt} {w w' : σ}
    (hconnect : h.connect t w = (.error halt, w')) (command : Command) :
    h.query t command w = (Outcome.within h.descriptor.options.dialTimeout (.error halt), h, w') := by
  have hcurrent : h.slot.current = none := by simp [Slot.current, hempty]
  unfold query acquire
  rcases Outcome.within_error h.descriptor.options.dialTimeout halt with ⟨e, hfailed⟩ | hwaiting
  · simp only [hcurrent, hconnect, hfailed]
    rfl
  · simp only [hcurrent, hconnect, hwaiting]

/-- A connection that can be opened is installed, and then it is as if it had been there. -/
theorem query_of_ok (hempty : h.slot.connection = none) {c : C} {w w' : σ}
    (hconnect : h.connect t w = (.ok c, w')) (command : Command) :
    h.query t command w = { h with slot := h.slot.install c }.query t command w' := by
  have hcurrent : h.slot.current = none := by simp [Slot.current, hempty]
  conv => lhs; unfold query acquire
  simp only [hcurrent, hconnect]
  rfl

/-- The slot after a command keeps its generation, and its connection unless that is lost. -/
theorem slot_settle {c : C} {generation : UInt64} (hcurrent : h.slot.current = some (c, generation)) (after : C)
    (outcome : Outcome Reply) :
    (h.settle generation after outcome).slot = ⟨if outcome.isLoss then none else some after, generation⟩ := by
  have hconnection := connection_settle hcurrent after outcome
  have hgeneration : (h.settle generation after outcome).slot.generation = generation :=
    (generation_settle generation after outcome).trans (Slot.current_eq_some_iff.1 hcurrent).2
  calc (h.settle generation after outcome).slot
    _ = ⟨(h.settle generation after outcome).slot.connection,
          (h.settle generation after outcome).slot.generation⟩ := rfl
    _ = ⟨if outcome.isLoss then none else some after, generation⟩ := by rw [hconnection, hgeneration]

theorem descriptor_query (command : Command) (w : σ) : (h.query t command w).2.1.descriptor = h.descriptor := by
  cases hc : h.slot.connection with
  | some c =>
    rw [query_of_connection t hc]
    exact descriptor_settle _ _ _
  | none =>
    cases hconnect : h.connect t w with
    | mk result w' =>
      cases result with
      | error halt => rw [query_of_error t hc hconnect]
      | ok c =>
        rw [query_of_ok t hc hconnect, query_of_connection t rfl]
        exact descriptor_settle _ _ _

/-! ### Nothing comes of the watching -/

/-- The attempt to connect is on record. -/
theorem connect_observed {w : Observed C σ} {result : Except Halt C} {w' : σ}
    (hconnect : h.connect t w.world = (result, w')) :
    h.connect t.observed w = (result, ⟨w', w.errands ++ [.connect result]⟩) := by
  show (match t.connect h.descriptor w.world with
    | (result, world) => (result, Observed.mk world (w.errands ++ [Errand.connect result]))) = _
  rw [show t.connect h.descriptor w.world = (result, w') from hconnect]

/-- The command ends as it would without a record. -/
theorem query_observed (command : Command) (w : Observed C σ) :
    (h.query t.observed command w).1 = (h.query t command w.world).1 ∧
      (h.query t.observed command w).2.1 = (h.query t command w.world).2.1 ∧
      (h.query t.observed command w).2.2.world = (h.query t command w.world).2.2 := by
  cases hc : h.slot.connection with
  | some c =>
    rw [query_of_connection t hc, query_of_connection t.observed hc]
    exact ⟨rfl, rfl, rfl⟩
  | none =>
    cases hopen : h.connect t w.world with
    | mk result w' =>
      have hobserved := connect_observed t hopen
      cases result with
      | error halt =>
        rw [query_of_error t hc hopen, query_of_error t.observed hc hobserved]
        exact ⟨rfl, rfl, rfl⟩
      | ok c =>
        rw [query_of_ok t hc hopen, query_of_ok t.observed hc hobserved, query_of_connection t rfl,
          query_of_connection t.observed rfl]
        exact ⟨rfl, rfl, rfl⟩

end LiveHandle

/-! ## One command after another -/

/-- A command that was given to a handle, and what the handle did for it. -/
structure Visit (C : Type) where
  command : Command
  before : Slot C
  errands : List (Errand C)
  outcome : Outcome Reply
  after : Slot C

namespace Visit

/-- What a handle may do for a command. -/
inductive Lawful (o : ConnectionOptions) (v : Visit C) : Prop where
  /-- There is no connection, and none can be opened: the command ends as the attempt did. -/
  | refused (halt : Halt) (hempty : v.before.connection = none)
    (herrands : v.errands = [.connect (.error halt)]) (houtcome : Outcome.Ends o.dialTimeout (.error halt) v.outcome)
    (hslot : v.after = v.before)
  /-- The command is run once, on the connection that is there. -/
  | carried (c after : C) (result : Except Halt Reply) (hconnection : v.before.connection = some c)
    (herrands : v.errands = [.run v.command c result after])
    (houtcome : Outcome.Ends o.responseTimeout result v.outcome)
    (hslot : v.after = ⟨if v.outcome.isLoss then none else some after, v.before.generation⟩)
  /-- There is no connection, and the command is run once, on a connection that is opened for it. -/
  | opened (c after : C) (result : Except Halt Reply) (hempty : v.before.connection = none)
    (herrands : v.errands = [.connect (.ok c), .run v.command c result after])
    (houtcome : Outcome.Ends o.responseTimeout result v.outcome)
    (hslot : v.after = ⟨if v.outcome.isLoss then none else some after, v.before.generation + 1⟩)

variable {o : ConnectionOptions} {v : Visit C}

/-- The handle tries to connect exactly where there is no connection. -/
theorem Lawful.connects_iff (h : v.Lawful o) : (∃ result, .connect result ∈ v.errands) ↔ v.before.connection = none := by
  cases h with
  | refused halt hempty herrands =>
    rw [herrands]
    exact ⟨fun _ => hempty, fun _ => ⟨.error halt, List.mem_cons_self⟩⟩
  | carried c after result hconnection herrands =>
    rw [herrands, hconnection]
    refine ⟨?_, nofun⟩
    rintro ⟨result, hmem⟩
    cases List.mem_singleton.1 hmem
  | opened c after result hempty herrands =>
    rw [herrands]
    exact ⟨fun _ => hempty, fun _ => ⟨.ok c, List.mem_cons_self⟩⟩

/-- Only a loss takes a connection away, and a loss is neither a timeout nor an error that the store answers. -/
theorem Lawful.of_taken (h : v.Lawful o) (hbefore : v.before.connection ≠ none) (hafter : v.after.connection = none) :
    ∃ e, v.outcome = .failed (.store e) ∧ e.isDisconnect = true ∧ ∀ answer, e ≠ .answered answer := by
  cases h with
  | refused halt hempty => exact absurd hempty hbefore
  | opened c after result hempty => exact absurd hempty hbefore
  | carried c after result hconnection herrands houtcome hslot =>
    rw [hslot] at hafter
    cases hloss : v.outcome.isLoss with
    | false =>
      rw [hloss] at hafter
      cases hafter
    | true =>
      obtain ⟨e, houtcome, he⟩ := Outcome.exists_of_isLoss hloss
      refine ⟨e, houtcome, he, ?_⟩
      rintro answer rfl
      rw [isDisconnect_answered] at he
      cases he

end Visit

/-- A handle with its world, and the commands that were given to it, in order. -/
structure Service (C σ : Type) where
  handle : LiveHandle C
  world : σ
  visits : List (Visit C) := []

namespace Service

variable (t : Transport C σ) {s : Service C σ}

/-- The visit of a command. -/
def visit (s : Service C σ) (command : Command) : Visit C where
  command := command
  before := s.handle.slot
  errands := (s.handle.query t.observed command ⟨s.world, []⟩).2.2.errands
  outcome := (s.handle.query t command s.world).1
  after := (s.handle.query t command s.world).2.1.slot

/-- The handle is given a command. -/
def next (s : Service C σ) (command : Command) : Service C σ :=
  let (_, handle, world) := s.handle.query t command s.world
  ⟨handle, world, s.visits ++ [s.visit t command]⟩

/-- The handle is given one command after another. -/
def run (s : Service C σ) (commands : List Command) : Service C σ := commands.foldl (next t) s

theorem visit_eq {command : Command} {outcome : Outcome Reply} {handle : LiveHandle C} {world : σ}
    {errands : List (Errand C)} (hquery : s.handle.query t command s.world = (outcome, handle, world))
    (herrands : (s.handle.query t.observed command ⟨s.world, []⟩).2.2.errands = errands) :
    s.visit t command = ⟨command, s.handle.slot, errands, outcome, handle.slot⟩ := by
  unfold visit
  rw [hquery, herrands]

theorem lawful_of_connection {c : C} (hc : s.handle.slot.connection = some c) (command : Command) :
    (s.visit t command).Lawful s.handle.descriptor.options := by
  have hcurrent : s.handle.slot.current = some (c, s.handle.slot.generation) := Slot.current_eq_some_iff.2 ⟨hc, rfl⟩
  have hquery := LiveHandle.query_of_connection t hc command s.world
  have hobserved := LiveHandle.query_of_connection t.observed hc command ⟨s.world, []⟩
  rw [visit_eq t hquery (congrArg (·.2.2.errands) hobserved)]
  exact .carried c _ _ hc rfl (Outcome.ends_within _ _) (LiveHandle.slot_settle hcurrent _ _)

/-- A connection that is opened carries the command as one that had been there would. -/
theorem lawful_of_ok (hempty : s.handle.slot.connection = none) {c : C} {w : σ}
    (hconnect : s.handle.connect t s.world = (.ok c, w)) (command : Command) :
    (s.visit t command).Lawful s.handle.descriptor.options := by
  have hconnect' := LiveHandle.connect_observed t (w := ⟨s.world, []⟩) hconnect
  have hquery := (LiveHandle.query_of_ok t hempty hconnect command).trans
    (LiveHandle.query_of_connection t rfl command w)
  have hobserved := (LiveHandle.query_of_ok t.observed hempty hconnect' command).trans
    (LiveHandle.query_of_connection t.observed rfl command _)
  rw [visit_eq t hquery (congrArg (·.2.2.errands) hobserved)]
  exact .opened c _ _ hempty rfl (Outcome.ends_within _ _)
    (LiveHandle.slot_settle (Slot.current_install _ _) _ _)

theorem lawful_of_error (hempty : s.handle.slot.connection = none) {halt : Halt} {w : σ}
    (hconnect : s.handle.connect t s.world = (.error halt, w)) (command : Command) :
    (s.visit t command).Lawful s.handle.descriptor.options := by
  have hconnect' := LiveHandle.connect_observed t (w := ⟨s.world, []⟩) hconnect
  have hquery := LiveHandle.query_of_error t hempty hconnect command
  have hobserved := LiveHandle.query_of_error t.observed hempty hconnect' command
  rw [visit_eq t hquery (congrArg (·.2.2.errands) hobserved)]
  exact .refused halt hempty rfl (Outcome.ends_within _ _) rfl

/-- Whatever connection there is, and however the attempt to open one ends. -/
theorem lawful_visit (s : Service C σ) (command : Command) :
    (s.visit t command).Lawful s.handle.descriptor.options := by
  cases hc : s.handle.slot.connection with
  | some c => exact lawful_of_connection t hc command
  | none =>
    cases hconnect : s.handle.connect t s.world with
    | mk result w =>
      cases result with
      | error halt => exact lawful_of_error t hc hconnect command
      | ok c => exact lawful_of_ok t hc hconnect command

/-! ### What a command preserves -/

/-- The slots that the handle has had, of which the first is from before all commands. -/
def slots (first : Slot C) (s : Service C σ) : List (Slot C) := first :: s.visits.map (·.after)

theorem length_slots (first : Slot C) (s : Service C σ) : (slots first s).length = s.visits.length + 1 := by
  simp [slots]

theorem slots_next (first : Slot C) (s : Service C σ) (command : Command) :
    slots first (next t s command) = slots first s ++ [(next t s command).handle.slot] := by
  show first :: (s.visits ++ [s.visit t command]).map (·.after) = _
  rw [List.map_append]
  rfl

/-- The visits are what a handle may do, each where the one before has left the slot. -/
structure Follows (h : LiveHandle C) (s : Service C σ) : Prop where
  descriptor : s.handle.descriptor = h.descriptor
  slot : (slots h.slot s)[s.visits.length]? = some s.handle.slot
  lawful : ∀ v ∈ s.visits, v.Lawful h.descriptor.options
  chained : ∀ (i : Nat) (v : Visit C), s.visits[i]? = some v → (slots h.slot s)[i]? = some v.before

variable {h : LiveHandle C}

theorem follows_start (h : LiveHandle C) (world : σ) : Follows h ⟨h, world, []⟩ where
  descriptor := rfl
  slot := rfl
  lawful := nofun
  chained := nofun

theorem follows_next (hs : Follows h s) (command : Command) : Follows h (next t s command) where
  descriptor := (LiveHandle.descriptor_query t command s.world).trans hs.descriptor
  slot := by
    have hvisits : (next t s command).visits.length = (slots h.slot s).length := by
      rw [length_slots]
      exact List.length_append
    rw [slots_next, hvisits]
    exact List.getElem?_concat_length
  lawful := by
    intro v hv
    rcases List.mem_append.1 hv with hold | hnew
    · exact hs.lawful v hold
    · rw [List.mem_singleton.1 hnew, ← hs.descriptor]
      exact lawful_visit t s command
  chained := by
    intro i v hv
    have hvisits : (s.visits ++ [s.visit t command])[i]? = some v := hv
    rw [slots_next]
    rcases Nat.lt_trichotomy i s.visits.length with hlt | rfl | hgt
    · rw [List.getElem?_append_left (by rw [length_slots]; exact Nat.lt_succ_of_lt hlt)]
      rw [List.getElem?_append_left hlt] at hvisits
      exact hs.chained i v hvisits
    · -- the command finds the slot as the commands before have left it
      rw [List.getElem?_concat_length] at hvisits
      rw [List.getElem?_append_left (by rw [length_slots]; exact Nat.lt_succ_self _), hs.slot,
        ← Option.some.inj hvisits]
      rfl
    · rw [List.getElem?_eq_none (by simpa using Nat.succ_le_of_lt hgt)] at hvisits
      cases hvisits

theorem follows_run (hs : Follows h s) (commands : List Command) : Follows h (run t s commands) := by
  induction commands generalizing s with
  | nil => exact hs
  | cons command rest ih => exact ih (follows_next t hs command)

theorem map_command_run (s : Service C σ) (commands : List Command) :
    (run t s commands).visits.map (·.command) = s.visits.map (·.command) ++ commands :=
  Run.map_log (fun _ _ => List.map_append) s commands

end Service

/-! ## A name that is not accepted -/

namespace Connection

variable (net : Option Duration → Network σ) (limit : Option Duration) {name : String} {w w₁ w₂ : σ}
  {c c' : Connection} {halt : Halt}

/-- What is opened is named last, and then it is all for nothing if the name is not accepted. -/
theorem nameClient_error {a : Attempt σ Connection}
    (hopen : (a >>= fun c => nameClient net limit c none) w = (.ok c, w₁))
    (hname : c.run net limit (Command.setName name) w₁ = (.error halt, c', w₂)) :
    (a >>= fun c => nameClient net limit c (some name)) w = (.error halt, w₂) := by
  obtain ⟨c₁, v, ha, hkeep⟩ := Attempt.bind_eq_ok_iff.1 hopen
  cases hkeep
  rw [Attempt.bind_apply, ha]
  simp only [nameClient, hname]

theorem ofPlan_error {d : Descriptor} (hmode : ∀ options, d.mode ≠ .cluster options)
    (hopen : ofPlan net limit none d.plan w = (.ok c, w₁))
    (hname : c.run net limit (Command.setName name) w₁ = (.error halt, c', w₂)) :
    ofPlan net limit (some name) d.plan w = (.error halt, w₂) := by
  cases h : d.mode with
  | single =>
    rw [Descriptor.plan_of_single h] at hopen ⊢
    exact nameClient_error net limit hopen hname
  | sentinel masterName =>
    rw [Descriptor.plan_of_sentinel h] at hopen ⊢
    exact nameClient_error net limit hopen hname
  | cluster options => exact absurd h (hmode options)

end Connection

namespace LiveHandle

/-- The command is not run where the name is not accepted: nothing happens after that. -/
theorem query_of_setName_error (net : Option Duration → Network σ) {h : LiveHandle Connection} {name : String}
    {w w₁ w₂ : σ} {c c' : Connection} {halt : Halt} (hname : h.descriptor.options.clientName = some name)
    (hmode : ∀ options, h.descriptor.mode ≠ .cluster options) (hempty : h.slot.connection = none)
    (hopen : Connection.ofPlan (Network.limited net) h.descriptor.options.dialTimeout none h.descriptor.plan w =
      (.ok c, w₁))
    (hrefused : c.run (Network.limited net) h.descriptor.options.dialTimeout (Command.setName name) w₁ =
      (.error halt, c', w₂)) (command : Command) :
    h.query (Network.transport net) command w =
      (Outcome.within h.descriptor.options.dialTimeout (.error halt), h, w₂) := by
  refine query_of_error (Network.transport net) hempty ?_ command
  show Connection.ofPlan (Network.limited net) h.descriptor.options.dialTimeout h.descriptor.options.clientName
    h.descriptor.plan w = _
  rw [hname]
  exact Connection.ofPlan_error _ _ hmode hopen hrefused

end LiveHandle

/-! ## Any number of commands -/

namespace Service

/-- Whatever comes of connecting and of the commands, each command finds the slot as the one before has left it and is
dealt with as `Visit.Lawful` says; so the handle tries to connect exactly where there is no connection, and only a loss
takes one away, which is no timeout and no error that the store answers. Over a network, a client name that is not
accepted ends the attempt to connect. -/
theorem slot_follows_outcomes (t : Transport C σ) (h : LiveHandle C) (world : σ) (commands : List Command) :
    (run t ⟨h, world, []⟩ commands).visits.map (·.command) = commands ∧
    (∀ (i : Nat) (v : Visit C), (run t ⟨h, world, []⟩ commands).visits[i]? = some v →
      (slots h.slot (run t ⟨h, world, []⟩ commands))[i]? = some v.before ∧ v.Lawful h.descriptor.options ∧
      ((∃ result, .connect result ∈ v.errands) ↔ v.before.connection = none) ∧
      (v.before.connection ≠ none → v.after.connection = none →
        ∃ e, v.outcome = .failed (.store e) ∧ e.isDisconnect = true ∧ ∀ answer, e ≠ .answered answer)) ∧
    ∀ (τ : Type) (net : Option Duration → Network τ) (g : LiveHandle Connection) (name : String) (w w₁ w₂ : τ)
      (c c' : Connection) (halt : Halt), g.descriptor.options.clientName = some name →
      (∀ options, g.descriptor.mode ≠ .cluster options) → g.slot.connection = none →
      Connection.ofPlan (Network.limited net) g.descriptor.options.dialTimeout none g.descriptor.plan w = (.ok c, w₁) →
      c.run (Network.limited net) g.descriptor.options.dialTimeout (Command.setName name) w₁ = (.error halt, c', w₂) →
      ∀ command, g.query (Network.transport net) command w =
        (Outcome.within g.descriptor.options.dialTimeout (.error halt), g, w₂) := by
  have hfollows := follows_run t (follows_start h world) commands
  refine ⟨map_command_run t ⟨h, world, []⟩ commands, ?_, ?_⟩
  · intro i v hv
    have hlawful : v.Lawful h.descriptor.options := hfollows.lawful v (List.mem_of_getElem? hv)
    exact ⟨hfollows.chained i v hv, hlawful, hlawful.connects_iff, hlawful.of_taken⟩
  · intro τ net g name w w₁ w₂ c c' halt hname hmode hempty hopen hrefused command
    exact LiveHandle.query_of_setName_error net hname hmode hempty hopen hrefused command

/-- One node, whose clients have a name. -/
def named : Descriptor where
  addresses := ["127.0.0.1:2"]
  mode := .single
  options := { clientName := some "n" }
  addresses_ne_nil := List.cons_ne_nil _ _
  endpoint_isSome := by decide
  masterName_ne_empty := Mode.name_ne_empty_of_single

/-- A server that takes no names. -/
def strict : ScriptedServer := { port := 2, script := { setup := [("CLIENT SETNAME", .send (.error "ERR no"))] } }

/-- Three commands to a server that answers the first with an error and closes the link on the second. -/
def three : Service Connection ScriptedServer :=
  run (Network.transport ScriptedServer.network)
    ⟨.new named, { port := 2, script := { replies := [.send (.error "ERR no"), .close] } }, []⟩
    [.ofTexts ["GET", "a"], .ofTexts ["GET", "b"], .ofTexts ["GET", "c"]]

/-- The connection that is opened without a name, and what the server says to the name. -/
def answered : Option (Except Halt Reply × Connection × ScriptedServer) :=
  let (result, s) := Connection.ofPlan (Network.limited ScriptedServer.network) none none named.plan strict
  result.toOption.map fun c => c.run (Network.limited ScriptedServer.network) none (Command.setName "n") s

/-- The connection is kept after the error and lost after the closing, and so there is a new one for the third command;
where no name is accepted the command is not served. -/
theorem slot_follows_outcomes_three :
    (∃ v, three.visits[0]? = some v ∧ v.after.connection ≠ none) ∧
    (∃ v, three.visits[1]? = some v ∧ ∃ e, v.outcome = .failed (.store e) ∧ e.isDisconnect = true) ∧
    (∃ v, three.visits[2]? = some v ∧ ∃ result, .connect result ∈ v.errands) ∧
    ∃ halt server, (LiveHandle.new named).query (Network.transport ScriptedServer.network) .ping strict =
      (Outcome.within none (.error halt), .new named, server) ∧ server.served.length = 0 := by
  obtain ⟨_, hvisits, hnames⟩ := slot_follows_outcomes (Network.transport ScriptedServer.network) (.new named)
    { port := 2, script := { replies := [.send (.error "ERR no"), .close] } }
    [.ofTexts ["GET", "a"], .ofTexts ["GET", "b"], .ofTexts ["GET", "c"]]
  have hkept : three.visits[0]?.any (·.after.connection.isSome) = true := by decide +kernel
  have hlost : three.visits[1]?.any (fun v => v.before.connection.isSome && v.after.connection.isNone) = true := by
    decide +kernel
  have hgone : three.visits[2]?.any (·.before.connection.isNone) = true := by decide +kernel
  have hrefused : answered.any (fun a => !a.1.isOk && a.2.2.served.length = 0) = true := by decide +kernel
  refine ⟨?_, ?_, ?_, ?_⟩
  · obtain ⟨v, hv, hafter⟩ := (Option.any_eq_true _ _).1 hkept
    exact ⟨v, hv, Option.isSome_iff_ne_none.1 hafter⟩
  · obtain ⟨v, hv, hslots⟩ := (Option.any_eq_true _ _).1 hlost
    obtain ⟨hbefore, hafter⟩ := Bool.and_eq_true_iff.1 hslots
    obtain ⟨e, houtcome, he, _⟩ := (hvisits 1 v hv).2.2.2 (Option.isSome_iff_ne_none.1 hbefore)
      (Option.isNone_iff_eq_none.1 hafter)
    exact ⟨v, hv, e, houtcome, he⟩
  · obtain ⟨v, hv, hbefore⟩ := (Option.any_eq_true _ _).1 hgone
    exact ⟨v, hv, (hvisits 2 v hv).2.2.1.2 (Option.isNone_iff_eq_none.1 hbefore)⟩
  · obtain ⟨⟨result, c', w₂⟩, hanswered, hends⟩ := (Option.any_eq_true _ _).1 hrefused
    obtain ⟨hfails, hserved⟩ := Bool.and_eq_true_iff.1 hends
    unfold answered at hanswered
    cases hopen : Connection.ofPlan (Network.limited ScriptedServer.network) none none named.plan strict with
    | mk opened w₁ =>
      rw [hopen] at hanswered
      obtain ⟨c, hc, hrun⟩ := Option.map_eq_some_iff.1 hanswered
      cases opened with
      | error halt => cases hc
      | ok c₁ =>
        cases hc
        cases result with
        | ok r => cases hfails
        | error halt =>
          exact ⟨halt, w₂, hnames ScriptedServer ScriptedServer.network (.new named) "n" strict w₁ w₂ c c' halt rfl
            nofun rfl hopen hrun .ping, of_decide_eq_true hserved⟩

end Service

end Tether
