/-!
# Transport protocols
-/

namespace PodMesh

/-- A transport protocol that a container serves or a probe uses. -/
inductive Protocol where
  | tcp
  | udp
  | sctp
  deriving DecidableEq, Repr

namespace Protocol

/-- Every protocol, in the order they are listed to users. -/
def all : List Protocol := [.tcp, .udp, .sctp]

/-- The name in lower case, as client commands and port names use it. -/
def lower : Protocol → String
  | .tcp => "tcp"
  | .udp => "udp"
  | .sctp => "sctp"

/-- The name in upper case, as messages and model files use it. -/
def text : Protocol → String
  | .tcp => "TCP"
  | .udp => "UDP"
  | .sctp => "SCTP"

/-- The protocol that a name stands for, in any mix of cases. -/
def ofText? (s : String) : Option Protocol :=
  all.find? fun p => s.toUpper = p.text

end Protocol

end PodMesh
