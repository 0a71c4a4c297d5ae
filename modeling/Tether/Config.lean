import Tether.Descriptor.OfJson
import Tether.Toml.Document

namespace Tether

/-! # Configuration files

A configuration file is a TOML document with either a URL or a table of options. Both become the argument that
makes a client, a JSON value.
-/

mutual

/-- A TOML value as JSON: a number that is not finite becomes `null`, and a date or time becomes an object of
its text. -/
def Toml.toJson : Toml → Json
  | .string s => .string s
  | .integer i => Json.ofInt i.toInt
  | .real x => Json.ofBinary64 x
  | .boolean b => .bool b
  | .datetime d => .object [("$__toml_private_datetime", .string d.text)]
  | .array items => .array (Toml.itemsToJson items)
  | .table entries => Json.ofMembers (Toml.entriesToJson entries)

/-- The items of an array as JSON. -/
def Toml.itemsToJson : List Toml → List Json
  | [] => []
  | item :: rest => item.toJson :: Toml.itemsToJson rest

/-- The entries of a table as JSON. -/
def Toml.entriesToJson : List (String × Toml) → List (String × Json)
  | [] => []
  | (key, value) :: rest => (key, value.toJson) :: Toml.entriesToJson rest

end

/-- What a configuration file sets. -/
structure Config where
  url : Option String := none
  connection : Option Json := none

/-- Why a configuration gives no argument. -/
inductive ConfigFault where
  | both
  | neither
deriving DecidableEq, Repr

/-- The message for a fault. -/
def ConfigFault.message : ConfigFault → String
  | .both => "config sets both `url` and `[connection]`"
  | .neither => "config needs either `url` or `[connection]`"

namespace Config

/-- Reads one entry of a configuration. -/
def setEntry? (c : Config) (e : String × Toml) : Option Config :=
  if e.1 = "url" then
    match e.2 with
    | .string url => some { c with url := some url }
    | _ => none
  else if e.1 = "connection" then some { c with connection := some e.2.toJson }
  else none

/-- The configuration that a TOML text spells. -/
def parse? (text : String) : Option Config := (Toml.parse text).bind (·.foldlM setEntry? {})

/-- The argument for a client. -/
def argument (c : Config) : Except ConfigFault Json :=
  match c.url, c.connection with
  | some url, none => .ok (.string url)
  | none, some connection => .ok connection
  | some _, some _ => .error .both
  | none, none => .error .neither

end Config

/-- Why a configuration file cannot be read. -/
inductive ConfigFileFault where
  | missing
  | notText
  | notConfig
deriving DecidableEq, Repr

namespace ConfigFileFault

/-- The message for a file at this path. -/
def message (path : String) : ConfigFileFault → String
  | .missing => "failed to read config file " ++ path
  | .notText => "failed to read config file " ++ path
  | .notConfig => "invalid config file " ++ path

/-- The cause that the system gives, if it gives one. -/
def cause : ConfigFileFault → Option String
  | .missing => some "No such file or directory (os error 2)"
  | .notText => some "stream did not contain valid UTF-8"
  | .notConfig => none

end ConfigFileFault

/-- The configuration in a file with these bytes, or in none. -/
def Config.load (content : Option Bytes) : Except ConfigFileFault Config :=
  match content with
  | none => .error .missing
  | some bytes =>
    match Utf8.decode? bytes with
    | none => .error .notText
    | some text =>
      match Config.parse? text with
      | none => .error .notConfig
      | some c => .ok c

end Tether
