import Tether.Text.Integer
import Tether.Text.Utf8

namespace Tether

/-! # Scripts

A script says what a server sends for the commands it gets, byte by byte if need be, and when it closes a
connection or says nothing at all.
-/

/-- Something that a server sends. -/
inductive Line where
  | nil
  | status (text : String)
  | integer (i : Int)
  | bulk (bytes : Bytes)
  | error (text : String)
  | list (items : List Line)
  /-- These bytes and nothing else. -/
  | raw (bytes : Bytes)
deriving Repr, Inhabited

namespace Line

/-- A first character and a text, as a line. -/
def ended (kind : String) (text : String) : Bytes := Utf8.encode (kind ++ text ++ "\r\n")

mutual

/-- The bytes that are sent. -/
def encode : Line → Bytes
  | .nil => ended "$" "-1"
  | .status text => ended "+" text
  | .integer i => ended ":" (Decimal.ofInt i)
  | .bulk bytes => ended "$" (Decimal.ofNat bytes.length) ++ bytes ++ ended "" ""
  | .error text => ended "-" text
  | .list items => ended "*" (Decimal.ofNat items.length) ++ encodeAll items
  | .raw bytes => bytes

/-- The bytes that are sent for several. -/
def encodeAll : List Line → Bytes
  | [] => []
  | line :: rest => encode line ++ encodeAll rest

end

/-- A text as bytes with their length. -/
def text (s : String) : Line := .bulk (Utf8.encode s)

end Line

/-- What a server does when it gets a command. -/
inductive Reaction where
  | send (line : Line)
  | close
  | hang
deriving Repr, Inhabited

/-- What a server does: callers' commands are answered one after another from `replies`, and each command that
prepares a link as its name says. -/
structure Script where
  replies : List Reaction := []
  setup : List (String × Reaction) := []

namespace Script

/-- The commands that prepare a link, with what is sent for them unless the script says otherwise. -/
def defaults (port : UInt16) : List (String × Line) :=
  let host := Line.text "127.0.0.1"
  let portText := Line.text (Decimal.ofNat port.toNat)
  [("AUTH", .status "OK"), ("SELECT", .status "OK"), ("READONLY", .status "OK"), ("ASKING", .status "OK"),
    ("CLIENT SETINFO", .status "OK"), ("CLIENT SETNAME", .status "OK"),
    ("ROLE", .list [.text "master", .integer 0, .list []]),
    ("SENTINEL MASTERS", .list [.list [.text "name", .text "primary", .text "ip", host, .text "port", portText,
      .text "flags", .text "master"]]),
    ("CLUSTER SLOTS", .list [.list [.integer 0, .integer 16383, .list [host, .integer port.toNat]]])]

/-- The commands that prepare a link and are never shown. -/
def hidden : List String := ["PING", "CLIENT SETINFO", "CLUSTER SLOTS"]

/-- What is sent for a command that prepares a link, if it is one of this name. -/
def setupReaction? (s : Script) (port : UInt16) (name : String) : Option Reaction :=
  (s.setup.lookup name).or (((defaults port).lookup name).map Reaction.send)

/-- The names that a command may go by: its first two words, and its first. -/
def names : List String → List String
  | first :: second :: _ => [first ++ " " ++ second, first]
  | [first] => [first]
  | [] => []

/-- The name of a command that prepares a link, and what is sent for it. -/
def setup? (s : Script) (port : UInt16) (command : List String) : Option (String × Reaction) :=
  (names command).findSome? fun name => (s.setupReaction? port name).map (name, ·)

/-- What is sent for a caller's command where no reply is left. -/
def unscripted (command : List String) : Reaction :=
  .send (.status (if command.head? = some "PING" then "PONG" else "OK"))

end Script

end Tether
