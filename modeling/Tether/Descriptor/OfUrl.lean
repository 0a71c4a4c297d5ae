import Tether.Descriptor.Basic

namespace Tether

/-! # Descriptors from URLs

A URL names one node, with its credentials and database.
-/

namespace Descriptor

/-- The settings of a connection to a node. -/
def nodeOptions (n : Node) : ConnectionOptions :=
  { username := n.username, password := n.password, database := n.database, tls := n.security.isTls }

/-- The descriptor of the node that a reader of URLs finds in a text. -/
def ofUrlBy (read : String → Except UrlFault Node) (url : String) : Except DescriptorError Descriptor :=
  match read url with
  | .error fault => .error (.invalidUrl fault)
  | .ok n => new [Address.join n.host n.port] .single (nodeOptions n)

/-- The descriptor of the node that a URL names. -/
def ofUrl : String → Except DescriptorError Descriptor := ofUrlBy Url.node

end Descriptor

end Tether
