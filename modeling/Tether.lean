import Tether.Config
import Tether.Descriptor.OfJsonText
import Tether.Descriptor.OfToml
import Tether.Descriptor.Show
import Tether.Fingerprint
import Tether.Json.Writer
import Tether.Main
import Tether.Proofs.Descriptor.Sharing
import Tether.Proofs.Handle.LateFailures
import Tether.Proofs.Registry.Isolation
import Tether.Rehearsal.Basic
import Tether.Session
import Tether.Proofs.Toml.Document
import Tether.Proofs.Descriptor.Readers
import Tether.Proofs.Descriptor.Entries
import Tether.Proofs.Config.Connection
import Tether.Proofs.Client.Call
import Tether.Proofs.Client.Binding
import Tether.Proofs.Host.Basic
import Tether.Proofs.Host.History
import Tether.Proofs.Host.Twins
import Tether.Proofs.Descriptor.Parameters
import Tether.Proofs.Registry.FirstDescriptor
import Tether.Proofs.Json.Follows
import Tether.Proofs.Descriptor.Streaming
import Tether.Proofs.Connection.Naming
import Tether.Proofs.Handle.Journey
import Tether.Proofs.Handle.Naming
import Tether.Proofs.Address.Brackets
import Tether.Proofs.Url.Password
import Tether.Proofs.Descriptor.Refusals
import Tether.Proofs.Session.Masked
import Tether.Proofs.Session.Secrets
import Tether.Proofs.Session.Accounts
import Tether.Proofs.Handle.Dialling
import Tether.Proofs.Descriptor.Origins
import Tether.Proofs.Descriptor.Deciding
import Tether.Proofs.Store.Expiry
import Tether.Proofs.Store.Message
import Tether.Proofs.Handle.Recording
import Tether.Proofs.Cli.Joining
