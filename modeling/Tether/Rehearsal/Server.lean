import Tether.Network.Basic
import Tether.Rehearsal.Script
import Tether.Wire.Reply

namespace Tether

/-! # A scripted server

A server in memory that follows a script, and the network on which it is the only one to be reached. It keeps
what it was sent. A link keeps the bytes that are no whole reply yet, and how many requests nobody answered:
what arrives next answers the oldest of them.
-/

/-- A link as both of its ends keep it. -/
structure ServerLink where
  /-- The commands that prepared the link. -/
  log : List (List String) := []
  /-- The commands that prepared the link since the last caller's command. -/
  recent : List (List String) := []
  isOpen : Bool := true
  unanswered : Nat := 0
  buffer : Bytes := []

/-- A caller's command that the server got. -/
structure Served where
  command : List String
  /-- The commands that prepared the link since the caller's command before. -/
  setup : List (List String)

/-- A server that follows a script. -/
structure ScriptedServer where
  port : UInt16
  isListening : Bool := true
  script : Script := {}
  links : List ServerLink := []
  served : List Served := []

namespace ServerLink

/-- Keeps a command that prepares the link. -/
def prepare (l : ServerLink) (name : String) (command : List String) : ServerLink :=
  if Script.hidden.contains name then l
  else { l with log := l.log ++ [command], recent := l.recent ++ [command] }

/-- What has arrived for the request that was sent last. -/
def arrive (l : ServerLink) (bytes : Bytes) : Response × ServerLink :=
  let arrived := Reply.allOfBytes (l.buffer ++ bytes)
  let answers := arrived.replies.filter Reply.isAnswer
  match answers[l.unanswered]?, arrived.stop with
  | some r, .incomplete => (.reply r, { l with unanswered := 0, buffer := arrived.rest })
  | some r, .malformed _ => (.reply r, { l with isOpen := false })
  | none, .incomplete =>
    (.silence, { l with unanswered := l.unanswered + 1 - answers.length, buffer := arrived.rest })
  | none, .malformed detail =>
    (if answers.length = l.unanswered then .malformed detail else .closed, { l with isOpen := false })

/-- What a reaction of the server does to the request that was sent last. -/
def react (l : ServerLink) : Reaction → Response × ServerLink
  | .send line => l.arrive line.encode
  | .close => (.closed, { l with isOpen := false })
  | .hang => (.silence, { l with unanswered := l.unanswered + 1 })

end ServerLink

namespace ScriptedServer

/-- The hosts by which the server is reached. -/
def hosts : List String := ["127.0.0.1", "localhost"]

/-- The server listens at this node. -/
def isAt (s : ScriptedServer) (n : Node) : Bool := s.isListening && hosts.contains n.host && n.port = s.port

/-- There is no time to wait for anything. -/
def isHurried (limit : Option Duration) : Bool := limit.any (·.toNanos = 0)

/-- A node that wants TLS is connected, and then given up. -/
def dial (limit : Option Duration) (n : Node) : Attempt ScriptedServer Link := fun s =>
  if isHurried limit then (.error .waiting, s)
  else if s.isAt n then
    (if n.security.isTls then .error (.failed .refusedConnection) else .ok s.links.length,
      { s with links := s.links ++ [{}] })
  else (.error (.failed .refusedConnection), s)

/-- Takes the reaction to a caller's command off the script. -/
def nextReply (s : ScriptedServer) (command : List String) : Reaction × ScriptedServer :=
  match s.script.replies with
  | [] => (Script.unscripted command, s)
  | r :: rest => (r, { s with script := { s.script with replies := rest } })

/-- The reaction to a command on a link, and both after the command is kept. -/
def take (s : ScriptedServer) (l : ServerLink) (command : List String) : Reaction × ServerLink × ScriptedServer :=
  match s.script.setup? s.port command with
  | some (name, reaction) => (reaction, l.prepare name command, s)
  | none =>
    let (reaction, s) := s.nextReply command
    (reaction, { l with recent := [] }, { s with served := s.served ++ [⟨command, l.recent⟩] })

/-- Sends a command on a link. Who is in a hurry finds a link closed that is, but does not hear the server's answer. -/
def send (limit : Option Duration) (id : Link) (c : Command) (s : ScriptedServer) : Response × ScriptedServer :=
  match s.links[id]? with
  | none => (.closed, s)
  | some l =>
    if l.isOpen then
      let (reaction, l, s) := s.take l c.texts
      let (response, l) := l.react reaction
      (if isHurried limit then .silence else response, { s with links := s.links.set id l })
    else (.closed, s)

/-- The network of the server. Limits are short of the time between two tries. -/
def network (limit : Option Duration) : Network ScriptedServer where
  dial := dial limit
  send := send limit
  pause s := (false, s)
  await s := (!isHurried limit, s)

/-- Adds a reply to the end of the script. -/
def queue (s : ScriptedServer) (r : Reaction) : ScriptedServer :=
  { s with script := { s.script with replies := s.script.replies ++ [r] } }

/-- The commands that prepared each link, in the order in which the links were opened. -/
def log (s : ScriptedServer) : List (List (List String)) := s.links.map (·.log)

end ScriptedServer

end Tether
