import Tether.Url.Basic

namespace Tether

/-! # Nodes

What a connection to one node of a store needs to know. A URL names a node (`Url.node`), and the fault says
why one does not.
-/

/-- How a link to a node is secured. -/
inductive Security where
  | plain
  /-- TLS with a node whose certificate is verified. -/
  | verified
  /-- TLS with a node of any certificate. -/
  | unverified
deriving DecidableEq, Repr

/-- The link uses TLS. -/
def Security.isTls : Security → Bool
  | .plain => false
  | _ => true

/-- The endpoint of a node, how to reach it, and who to be there. -/
structure Node where
  host : String
  port : UInt16
  security : Security
  username : Option String
  password : Option String
  database : Int64
deriving DecidableEq, Repr

/-- The port of a node that names none. -/
def Node.defaultPort : UInt16 := 6379

/-- Why a text names no node. -/
inductive UrlFault where
  /-- The text is no URL of a scheme that the store knows. -/
  | unreadable
  | missingHost
  | unknownFragment
  | invalidDatabase
  | undecodableUsername
  | undecodablePassword
  | unknownProtocol (name : String)
  /-- A socket without a path. -/
  | missingPath
  /-- The URL names a socket and not an endpoint of the network. -/
  | socket (url : String)
deriving DecidableEq, Repr

namespace UrlFault

/-- The cause of a fault, before its kind. -/
def cause : UrlFault → String
  | .unreadable => "Redis URL did not parse"
  | .missingHost => "Missing hostname"
  | .unknownFragment => "only #insecure is supported as URL fragment"
  | .invalidDatabase => "Invalid database number"
  | .undecodableUsername => "Username is not valid UTF-8 string"
  | .undecodablePassword => "Password is not valid UTF-8 string"
  | .unknownProtocol _ => "Invalid protocol version"
  | .missingPath => "Missing path"
  | .socket url => url ++ ": only tcp endpoints are supported"

/-- The message for a fault: the cause, the kind of all faults in the settings of a client, and a detail. -/
def message (f : UrlFault) : String :=
  match f with
  | .socket _ => f.cause
  | .unknownProtocol name => f.cause ++ " - InvalidClientConfig: " ++ name
  | _ => f.cause ++ "- InvalidClientConfig"

end UrlFault

namespace Url

/-- The schemes that name a node of the network. -/
def nodeSchemes : List String := ["redis", "rediss"]

/-- The schemes that name a socket. -/
def socketSchemes : List String := ["unix", "redis+unix"]

/-- A database number. -/
def database? (cs : List Char) : Except UrlFault Int64 :=
  match Decimal.int64? cs with
  | some n => .ok n
  | none => .error .invalidDatabase

/-- The database that a path names; the slashes around it do not count. -/
def pathDatabase? (path : List Char) : Except UrlFault Int64 :=
  let inner := ((path.dropWhile (· = '/')).reverse.dropWhile (· = '/')).reverse
  if inner.isEmpty then .ok 0 else database? inner

/-- A user name or password with its escapes read. -/
def decoded (fault : UrlFault) (cs : List Char) : Except UrlFault String :=
  match Utf8.decode? (Percent.decode (Utf8.encode (String.ofList cs))) with
  | some s => .ok s
  | none => .error fault

/-- The version of the protocol that the query asks for must be a known one. -/
def checkProtocol (u : Url) : Except UrlFault Unit :=
  match u.parameter? "protocol" with
  | none => .ok ()
  | some v => if ["2", "resp2", "3", "resp3"].contains v then .ok () else .error (.unknownProtocol v)

/-- How links to the node of a URL are secured; only a fragment can keep the certificate from being verified. -/
def security (u : Url) : Except UrlFault Security :=
  if u.scheme = "rediss" then
    match u.fragment with
    | none => .ok .verified
    | some fragment => if fragment = "insecure".toList then .ok .unverified else .error .unknownFragment
  else .ok .plain

/-- The node that a URL of the network names. -/
def networkNode (u : Url) : Except UrlFault Node := do
  let some host := u.host | .error .missingHost
  let security ← u.security
  let database ← pathDatabase? u.path
  let username ← if u.username.isEmpty then pure none else some <$> decoded .undecodableUsername u.username
  let password ← match u.password with
    | none => pure none
    | some p => some <$> decoded .undecodablePassword p
  checkProtocol u
  pure ⟨host.text, u.port.getD Node.defaultPort, security, username, password, database⟩

/-- The path of a socket must be rooted and on this machine. -/
def hasSocketPath (u : Url) : Bool :=
  u.path.head? = some '/' && (u.host.isNone || u.host = some (.name "localhost"))

/-- What is wrong with a URL that names a socket: at the least, that it does. -/
def socketFault (text : String) (u : Url) : UrlFault :=
  let checked : Except UrlFault Unit := do
    if !hasSocketPath u then .error .missingPath
    match u.parameter? "db" with
    | none => pure ()
    | some v => discard (database? v.toList)
    checkProtocol u
  match checked with
  | .error fault => fault
  | .ok () => .socket text

/-- The node that a text names as a URL. -/
def node (text : String) : Except UrlFault Node :=
  match Url.ofText? text with
  | none => .error .unreadable
  | some u =>
    if nodeSchemes.contains u.scheme then networkNode u
    else if socketSchemes.contains u.scheme then .error (socketFault text u)
    else .error .unreadable

end Url

end Tether
