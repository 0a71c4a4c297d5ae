import Tether.Address
import Tether.Json.Fault
import Tether.Node

namespace Tether

/-! # Why there is no descriptor

A descriptor is refused for one cause, and each cause has its message.
-/

/-- Why connection options are malformed. -/
inductive OptionsFault where
  | emptyMasterName
  /-- The options are neither a URL nor an object. -/
  | notOptions (found : Json)
  /-- Something in the object does not fit. -/
  | misfit (cause : Json.Misfit)

/-- Why there is no descriptor. -/
inductive DescriptorError where
  | missingAddresses
  | invalidAddress (address : String) (fault : Address.Fault)
  | invalidUrl (fault : UrlFault)
  | conflictingModes
  | malformed (fault : OptionsFault)

/-- The words for the kind of a JSON value. -/
def Json.kind : Json → String
  | .null => "null"
  | .bool _ => "a boolean"
  | .number _ => "a number"
  | .string _ => "a string"
  | .array _ => "an array"
  | .object _ => "an object"

/-- The cause in words. -/
def OptionsFault.message : OptionsFault → String
  | .emptyMasterName => "masterName must not be empty"
  | .notOptions found => "expected a url string or an options object, got " ++ found.kind
  | .misfit cause => cause.message

/-- The message for an error. -/
def DescriptorError.message : DescriptorError → String
  | .missingAddresses => "at least one address is required"
  | .invalidAddress address fault => "invalid address " ++ quoted address ++ ": " ++ fault.reason
  | .invalidUrl fault => "invalid connection url: " ++ fault.message
  | .conflictingModes => "masterName and cluster are mutually exclusive"
  | .malformed fault => "malformed connection options: " ++ fault.message

end Tether
