import Tether.Client
import Tether.Handle.Recording

namespace Tether

/-! # Sessions

A session is one registry of recording handles with the clients made from it, and a run of steps on them. A step
that fails leaves the session as it was but for what it did before it failed, and the run goes on.
-/

/-- A run of steps so far. -/
structure Session where
  registry : Registry RecordingHandle := {}
  /-- The clients by name; a name occurs once. -/
  clients : List (String × Client) := []
  factories : Nat := 1
  /-- What was told since it was last asked for. -/
  events : List Event := []
  /-- The handles in the order in which answers first showed them. -/
  shown : List HandleId := []

/-- What a step is about: a client or the argument of one. -/
inductive Target where
  | client (name : String)
  | value (argument : Json)

/-- A step. -/
inductive Step where
  | newClient (name : String) (arguments : List Json)
  | fromDescriptor (name : String) (addresses : List String) (mode : Mode) (options : ConnectionOptions)
  | cloneFactory
  | drop (name : String)
  /-- An operation of a client, and perhaps a reply that is queued for it. -/
  | command (name : String) (call : Call) (reply : Option (Except StoreError Reply))
  /-- The same operation of several clients at once. -/
  | concurrent (names : List String) (call : Call)
  | queue (target : Target) (replies : List (Except StoreError Reply))
  | raw (target : Target) (command : Command)
  | commands (target : Target)
  | client (name : String)
  | getOrCreate (argument : Json)
  | get (argument : Json)
  /-- Several callers that ask for handles at once. -/
  | race (arguments : List Json)
  | stats
  | debug (name : String)
  | events

/-- A handle as answers show it. -/
structure HandleView where
  number : Nat
  queries : Nat
  mode : Mode
  addresses : List String

/-- The result of an operation. -/
structure CallResult where
  type : ResultType
  result : Except OperationError type.Value

/-- The state of a registry as answers show it. -/
structure Stats where
  size : Nat
  created : Nat
  fingerprints : List Fingerprint
  debugText : String
  factoryDebugText : String

/-- What a step gives. -/
inductive Answer where
  | newClient (client : Client) (size : Nat)
  | factories (count : Nat)
  | clients (count : Nat)
  | command (result : CallResult) (state : ClientState) (sent : Option (List String))
  | results (results : List CallResult)
  | queued (queries : Nat)
  | raw (result : Except OperationError Reply) (sent : Option (List String)) (queries : Nat)
  | commands (commands : List (List String))
  | client (client : Client) (bound : Option HandleView)
  | handle (view : HandleView)
  | found (contains : Bool) (handle : Option HandleView)
  | numbers (numbers : List Nat)
  | stats (s : Stats)
  | text (s : String)
  | events (events : List Event)
  | refused (e : ConstructionError)
  | noClient
  | noHandle

namespace Session

/-- The client of a name. -/
def client? (s : Session) (name : String) : Option Client := s.clients.lookup name

/-- Puts a client under its name, in the place of one that had it. -/
def putClient (s : Session) (name : String) (c : Client) : Session :=
  { s with clients := (s.clients.filter (·.1 ≠ name)) ++ [(name, c)] }

/-- Tells events. -/
def tell (s : Session) (events : List Event) : Session := { s with events := s.events ++ events }

/-- A session that makes a client. -/
def addClient (s : Session) (name : String) (c : Client) : Session × Answer :=
  (s.putClient name c, .newClient c s.registry.size)

/-- A handle as answers show it; the first time gives it the next number. -/
def view (s : Session) (id : HandleId) : Session × Option HandleView :=
  match s.registry.handle? id with
  | none => (s, none)
  | some h =>
    let shown := if s.shown.contains id then s.shown else s.shown ++ [id]
    ({ s with shown }, some ⟨shown.idxOf id, h.queries, h.descriptor.mode, h.descriptor.addresses⟩)

/-- Finds the handle of a descriptor or creates it. -/
def getOrCreate (s : Session) (d : Descriptor) : Session × HandleId :=
  let e := s.registry.getOrCreate RecordingHandle.new d
  (({ s with registry := e.registry } : Session).tell e.events, e.handle)

/-- Queues replies on a handle. -/
def queueOn (s : Session) (id : HandleId) (replies : List (Except StoreError Reply)) : Session :=
  match s.registry.handle? id with
  | none => s
  | some h => { s with registry := s.registry.update id (replies.foldl (fun h r => h.push r) h) }

/-- An operation as its outcome; recording handles always answer. -/
def resultOf (k : Call) (o : Outcome k.result.Value) : CallResult :=
  match o with
  | .finished result => ⟨k.result, result⟩
  | .waiting => ⟨k.result, .error (.store (.connection "no answer"))⟩

/-- Runs an operation of the client of a name. -/
def run (s : Session) (name : String) (c : Client) (k : Call) : Session × Client × CallResult :=
  let called := c.call RecordingHandle.kind s.registry () k
  let s := ({ s with registry := called.registry } : Session).tell called.events
  (s.putClient name called.client, called.client, resultOf k called.outcome)

/-- The handle of a client that is bound. -/
def boundHandle? (s : Session) (c : Client) : Option RecordingHandle := c.handle.bind s.registry.handle?

/-- An operation of a client, for which a reply is queued first. -/
def command (s : Session) (name : String) (k : Call) (reply : Option (Except StoreError Reply)) :
    Session × Answer :=
  match s.client? name with
  | none => (s, .noClient)
  | some c =>
    let s := match reply with
      | none => s
      | some reply =>
        let (s, id) := s.getOrCreate c.descriptor
        s.queueOn id [reply]
    let (s, c, result) := s.run name c k
    (s, .command result c.state ((s.boundHandle? c).bind (·.lastCommand?)))

/-- The same operation of clients one after another. -/
def runAll (s : Session) (k : Call) : List (String × Client) → Session × List CallResult
  | [] => (s, [])
  | (name, _) :: rest =>
    match s.client? name with
    | none => runAll s k rest
    | some c =>
      let (s, _, result) := s.run name c k
      let (s, results) := runAll s k rest
      (s, result :: results)

/-- The clients of names, if there are all of them. -/
def clientsOf? (s : Session) (names : List String) : Option (List (String × Client)) :=
  names.mapM fun name => (s.client? name).map (name, ·)

/-- The fingerprint that a target has. -/
def targetFingerprint (s : Session) : Target → Except Answer Fingerprint
  | .client name =>
    match s.client? name with
    | none => .error .noClient
    | some c => .ok c.fingerprint
  | .value argument =>
    match Descriptor.ofJson argument with
    | .error e => .error (.refused (.descriptor e))
    | .ok d => .ok d.fingerprint

/-- The registered handle of a target. -/
def targetHandle (s : Session) (t : Target) : Except Answer (HandleId × RecordingHandle) := do
  let f ← s.targetFingerprint t
  match s.registry.probe f with
  | none => .error .noHandle
  | some id =>
    match s.registry.handle? id with
    | none => .error .noHandle
    | some h => .ok (id, h)

/-- A step about the registered handle of a target. -/
def onHandle (s : Session) (t : Target) (f : HandleId → RecordingHandle → Session × Answer) : Session × Answer :=
  match s.targetHandle t with
  | .error answer => (s, answer)
  | .ok (id, h) => f id h

/-- A step about the descriptor of an argument. -/
def onDescriptor (s : Session) (argument : Json) (f : Descriptor → Session × Answer) : Session × Answer :=
  match Descriptor.ofJson argument with
  | .error e => (s, .refused (.descriptor e))
  | .ok d => f d

/-- Shows a handle. -/
def showHandle (s : Session) (id : HandleId) : Session × Answer :=
  let (s, view) := s.view id
  (s, (view.map Answer.handle).getD .noHandle)

/-- The numbers of handles for descriptors, which are asked for one after another. -/
def raceAll (s : Session) : List Descriptor → Session × List Nat
  | [] => (s, [])
  | d :: rest =>
    let (s, id) := s.getOrCreate d
    let (s, view) := s.view id
    let (s, numbers) := raceAll s rest
    (s, ((view.map (·.number)).getD 0) :: numbers)

/-- Sends a command straight to a handle. -/
def sendRaw (s : Session) (id : HandleId) (h : RecordingHandle) (c : Command) : Session × Answer :=
  let (reply, h) := h.query c
  let result : Except OperationError Reply := reply.mapError .store
  ({ s with registry := s.registry.update id h }, .raw result h.lastCommand? h.queries)

/-- The state of the registry. -/
def stats (s : Session) : Stats :=
  ⟨s.registry.size, s.registry.created, s.registry.fingerprints, s.registry.debugText,
    s.registry.factoryDebugText⟩

/-- Runs one step. -/
def step (s : Session) : Step → Session × Answer
  | .newClient name arguments =>
    match Client.ofArguments arguments with
    | .error e => (s, .refused e)
    | .ok c => s.addClient name c
  | .fromDescriptor name addresses mode options =>
    match Descriptor.new addresses mode options with
    | .error e => (s, .refused (.descriptor e))
    | .ok d => s.addClient name { descriptor := d }
  | .cloneFactory => ({ s with factories := s.factories + 1 }, .factories (s.factories + 1))
  | .drop name =>
    match s.client? name with
    | none => (s, .noClient)
    | some _ =>
      let clients := s.clients.filter (·.1 ≠ name)
      ({ s with clients }, .clients clients.length)
  | .command name k reply => s.command name k reply
  | .concurrent names k =>
    match s.clientsOf? names with
    | none => (s, .noClient)
    | some clients =>
      let (s, results) := s.runAll k clients
      ({ s with events := [] }, .results results)
  | .queue t replies => s.onHandle t fun id h => (s.queueOn id replies, .queued h.queries)
  | .raw t c => s.onHandle t fun id h => s.sendRaw id h c
  | .commands t => s.onHandle t fun _ h => (s, .commands h.commands)
  | .client name =>
    match s.client? name with
    | none => (s, .noClient)
    | some c =>
      match c.handle with
      | none => (s, .client c none)
      | some id =>
        let (s, view) := s.view id
        (s, .client c view)
  | .getOrCreate argument => s.onDescriptor argument fun d =>
    let (s, id) := s.getOrCreate d
    s.showHandle id
  | .get argument => s.onDescriptor argument fun d =>
    match s.registry.probe d.fingerprint with
    | none => (s, .found false none)
    | some id =>
      let (s, view) := s.view id
      (s, .found true view)
  | .race arguments =>
    match arguments.mapM Descriptor.ofJson with
    | .error e => (s, .refused (.descriptor e))
    | .ok descriptors =>
      let (s, numbers) := s.raceAll descriptors
      ({ s with events := [] }, .numbers numbers)
  | .stats => (s, .stats s.stats)
  | .debug name =>
    match s.client? name with
    | none => (s, .noClient)
    | some c => (s, .text c.debugText)
  | .events => ({ s with events := [] }, .events s.events)

/-- Runs steps one after another. -/
def runSteps (s : Session) : List Step → Session × List Answer
  | [] => (s, [])
  | step :: rest =>
    let (s, answer) := s.step step
    let (s, answers) := runSteps s rest
    (s, answer :: answers)

end Session

end Tether
