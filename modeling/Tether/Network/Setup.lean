import Tether.Network.Basic
import Tether.Text.Split

namespace Tether

/-! # Preparing a link

A new link is prepared in this order: `AUTH` where there is a password, `SELECT` where the database is not the
first one, and `CLIENT SETINFO`, whose answer does not matter.
-/

namespace Command

/-- A command of texts. -/
def ofTexts (texts : List String) : Command := texts.map Part.ofText

/-- Proves who one is; without a user name it is the default user. -/
def auth (username : Option String) (password : String) : Command :=
  ofTexts (["AUTH"] ++ username.toList ++ [password])

/-- Selects a database. -/
def select (database : Int64) : Command := ofTexts ["SELECT", Decimal.ofInt database.toInt]

/-- Names the client. -/
def setName (name : String) : Command := ofTexts ["CLIENT", "SETNAME", name]

/-- Tells something about the library. -/
def setInfo (what value : String) : Command := ofTexts ["CLIENT", "SETINFO", what, value]

end Command

/-- The store is too old to know user names. -/
def StoreError.rejectsUsername : StoreError → Bool
  | .answered e =>
    (e.detail.getD "").toList |> Split.occurs "wrong number of arguments for 'auth' command".toList
  | _ => false

namespace Network

variable {σ : Type}

/-- Sends a command that must be answered OK; what else comes back is the failure `e`. -/
def demand (net : Network σ) (l : Link) (c : Command) (e : StoreError) : Attempt σ Unit := do
  match ← (net.request l c).settled with
  | .ok .ok => pure ()
  | _ => Attempt.fail e

/-- Proves who one is, where there is a password. -/
def authenticate (net : Network σ) (l : Link) (n : Node) : Attempt σ Unit :=
  match n.password with
  | none => pure ()
  | some password => do
    match ← (net.request l (Command.auth n.username password)).settled with
    | .ok .ok => pure ()
    | .error e =>
      if e.rejectsUsername then net.demand l (Command.auth none password) .refusedPassword
      else Attempt.fail .refusedPassword
    | _ => Attempt.fail .refusedPassword

/-- Selects the database, unless it is the first one. -/
def select (net : Network σ) (l : Link) (database : Int64) : Attempt σ Unit :=
  if database = 0 then pure () else net.demand l (Command.select database) .refusedDatabase

/-- Tells what library is talking. -/
def introduce (net : Network σ) (l : Link) : Attempt σ Unit := do
  discard (net.request l (Command.setInfo "LIB-NAME" "redis-rs")).settled
  discard (net.request l (Command.setInfo "LIB-VER" "0.27.6")).settled

/-- A link to a node that is ready for commands. -/
def connect (net : Network σ) (n : Node) : Attempt σ Link := do
  let l ← net.dial n
  net.authenticate l n
  net.select l n.database
  net.introduce l
  pure l

end Network

end Tether
