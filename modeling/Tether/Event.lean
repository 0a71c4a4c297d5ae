import Tether.Fingerprint

namespace Tether

/-! # Events

What the registry and the clients tell about themselves while they work.
-/

/-- Something that is told. -/
inductive Event where
  | creating (fingerprint : Fingerprint) (mode : Mode) (addresses : List String)
  | reusing (fingerprint : Fingerprint)
  /-- Another caller created the handle between the look and the entry. -/
  | overtaken (fingerprint : Fingerprint)
  | bound (fingerprint : Fingerprint) (mode : Mode)
deriving DecidableEq, Repr

namespace Event

/-- The level of an event. -/
def level : Event → String
  | .creating .. => "DEBUG"
  | .reusing _ => "TRACE"
  | .overtaken _ => "TRACE"
  | .bound .. => "DEBUG"

/-- The message of an event. -/
def message : Event → String
  | .creating .. => "creating connection handle"
  | .reusing _ => "reusing connection handle"
  | .overtaken _ => "connection handle created concurrently"
  | .bound .. => "client bound to connection handle"

/-- The fields of an event. -/
def fields : Event → List (String × String)
  | .creating fingerprint mode addresses =>
    [("fingerprint", fingerprint.text), ("mode", mode.text), ("addresses", quotedList addresses)]
  | .reusing fingerprint => [("fingerprint", fingerprint.text)]
  | .overtaken fingerprint => [("fingerprint", fingerprint.text)]
  | .bound fingerprint mode => [("fingerprint", fingerprint.text), ("mode", mode.text)]

end Event

end Tether
