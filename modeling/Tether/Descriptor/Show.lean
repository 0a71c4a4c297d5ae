import Tether.Descriptor.Basic
import Tether.Text.Record

namespace Tether

/-! # Descriptors in diagnostics

Diagnostics show a whole descriptor but for its passwords: of these they show only whether they are there
(`ConnectionOptions.debugText_withPasswords`).
-/

/-- The settings of a cluster. -/
def ClusterOptions.debugText (o : ClusterOptions) : String :=
  Record.text "ClusterOptions" [("read_from_replicas", Record.flag o.readFromReplicas)]

/-- A mode. -/
def Mode.debugText : Mode → String
  | .single => "Single"
  | .sentinel name => Record.text "Sentinel" [("master_name", quoted name)]
  | .cluster options => Record.applied "Cluster" options.debugText

/-- What stands for a password. -/
def redacted : String := "<redacted>"

/-- The settings of a connection. -/
def ConnectionOptions.debugText (o : ConnectionOptions) : String :=
  Record.text "ConnectionOptions" [
    ("username", Record.optional (o.username.map quoted)),
    ("password", Record.optional (o.password.map fun _ => quoted redacted)),
    ("database", Decimal.ofInt o.database.toInt),
    ("client_name", Record.optional (o.clientName.map quoted)),
    ("tls", Record.flag o.tls),
    ("sentinel_username", Record.optional (o.sentinelUsername.map quoted)),
    ("sentinel_password", Record.optional (o.sentinelPassword.map fun _ => quoted redacted)),
    ("dial_timeout", Record.optional (o.dialTimeout.map Duration.text)),
    ("response_timeout", Record.optional (o.responseTimeout.map Duration.text))]

/-- A descriptor. -/
def Descriptor.debugText (d : Descriptor) : String :=
  Record.text "ConnectionDescriptor" [
    ("addresses", quotedList d.addresses),
    ("mode", d.mode.debugText),
    ("options", d.options.debugText)]

/-- The settings with other texts for the passwords that are there. -/
def ConnectionOptions.withPasswords (o : ConnectionOptions) (password sentinelPassword : String) :
    ConnectionOptions :=
  { o with
    password := o.password.map fun _ => password
    sentinelPassword := o.sentinelPassword.map fun _ => sentinelPassword }

theorem ConnectionOptions.debugText_withPasswords (o : ConnectionOptions) (p q : String) :
    (o.withPasswords p q).debugText = o.debugText := by
  cases o with | mk _ password _ _ _ _ sentinelPassword =>
  cases password <;> cases sentinelPassword <;> rfl

end Tether
