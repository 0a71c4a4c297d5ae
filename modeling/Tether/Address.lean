import Tether.Text.Integer
import Tether.Text.Split

namespace Tether

/-! # Addresses

An address is a host and a port with a colon between them. A host that holds colons itself stands in brackets.
`Address.split` takes an address apart and `Address.join` puts one together.
-/

/-- Where a node listens. -/
structure Endpoint where
  host : String
  port : UInt16
deriving DecidableEq, Repr

namespace Address

/-- Why a text is no address. -/
inductive Fault where
  | missingPort
  | emptyHost
  | unbracketedHost
  | invalidPort
deriving DecidableEq, Repr

/-- The reason in words. -/
def Fault.reason : Fault → String
  | .missingPort => "expected host:port"
  | .emptyHost => "empty host"
  | .unbracketedHost => "ipv6 hosts must be bracketed"
  | .invalidPort => "port must be a number between 0 and 65535"

/-- The text between brackets, or a text that does not both begin and end in one. -/
def stripBrackets (cs : List Char) : List Char :=
  match cs with
  | '[' :: r => if r.getLast? = some ']' then r.dropLast else cs
  | _ => cs

/-- Takes the characters of an address apart at the last colon. -/
def splitChars (cs : List Char) : Except Fault Endpoint :=
  match Split.atLast? ':' cs with
  | none => .error .missingPort
  | some (before, after) =>
    let host := stripBrackets before
    if host.isEmpty then .error .emptyHost
    else if host.contains ':' ∧ cs.head? ≠ some '[' then .error .unbracketedHost
    else
      match Decimal.natural? 65535 after with
      | none => .error .invalidPort
      | some port => .ok ⟨String.ofList host, UInt16.ofNat port⟩

/-- Takes an address apart. -/
def split (address : String) : Except Fault Endpoint := splitChars address.toList

/-- The endpoint of an address, if it is one. -/
def endpoint? (address : String) : Option Endpoint := (split address).toOption

/-- The address of an endpoint. -/
def join (host : String) (port : UInt16) : String :=
  if host.toList.contains ':' ∧ host.toList.head? ≠ some '[' then
    "[" ++ host ++ "]:" ++ Decimal.ofNat port.toNat
  else host ++ ":" ++ Decimal.ofNat port.toNat

end Address

end Tether
