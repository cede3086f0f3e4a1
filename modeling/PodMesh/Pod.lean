import PodMesh.Address
import PodMesh.Identity
import PodMesh.Protocol

/-!
# Pods

What is known about a pod: the containers it runs, where it can be addressed, and
whether probes are to leave it alone.
-/

namespace PodMesh

/-- A container and the one port it serves. -/
structure Container where
  name? : Option String := none
  port : UInt16
  protocol : Protocol
  deriving DecidableEq, Repr

/-- An address outside the cluster that leads to a pod for one protocol. -/
structure ExternalAddress where
  ip : Address
  protocol : Protocol
  deriving DecidableEq, Repr

/-- A pod, with whatever addresses it has been given. -/
structure Pod where
  ns : String := ""
  name : String := ""
  containers : List Container := []
  node : Option String := none
  podIp : Option Address := none
  hostIp : Option Address := none
  clusterIp : Option Address := none
  externalIps : List ExternalAddress := []
  /-- The service name to use in place of the pod's own. -/
  service : Option String := none
  /-- The port that its service listens on. -/
  servicePort : Option UInt16 := none
  /-- Count the pod as reached without probing it. -/
  skipped : Bool := false
  deriving DecidableEq, Repr

/-- A decimal number. -/
def decimal (n : Nat) : String := String.ofList (Nat.toDigits 10 n)

namespace Container

/-- The given name, or one made of the port and the protocol. -/
def name (c : Container) : String :=
  c.name?.getD ("cont-" ++ decimal c.port.toNat ++ "-" ++ c.protocol.lower)

def portName (c : Container) : String :=
  "serve-" ++ decimal c.port.toNat ++ "-" ++ c.protocol.lower

end Container

namespace Pod

def id (p : Pod) : Identity := ⟨p.ns, p.name⟩

def serviceName (p : Pod) : String := "s-" ++ p.ns ++ "-" ++ p.name

/-- The address that leads to the pod's service from any namespace. -/
def qualifiedAddress (p : Pod) (domain : String) : String :=
  p.serviceName ++ "." ++ p.ns ++ ".svc." ++ domain

/-- The name of the container that client commands run in. -/
def client? (p : Pod) : Option String := p.containers.head?.map Container.name

/-- The port of the first container that serves a protocol. -/
def port? (p : Pod) (protocol : Protocol) : Option UInt16 :=
  (p.containers.find? fun c => c.protocol = protocol).map Container.port

end Pod

end PodMesh
