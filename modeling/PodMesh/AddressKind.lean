import PodMesh.Pod

/-!
# Kinds of address

The ways to address a pod: directly, through its node, or through one of the services
in front of it.
-/

namespace PodMesh

/-- A way to address a destination pod. -/
inductive AddressKind where
  | podIp
  | clusterIp
  | nodePort
  | externalName
  | loadBalancer
  deriving DecidableEq, Repr

namespace AddressKind

def all : List AddressKind := [.podIp, .clusterIp, .nodePort, .externalName, .loadBalancer]

/-- The name in lower case, as messages use it. -/
def text : AddressKind → String
  | .podIp => "podip"
  | .clusterIp => "clusterip"
  | .nodePort => "nodeport"
  | .externalName => "externalname"
  | .loadBalancer => "loadbalancer"

/-- The name that model files use. -/
def fileName : AddressKind → String
  | .podIp => "PodIP"
  | .clusterIp => "ClusterIP"
  | .nodePort => "NodePort"
  | .externalName => "ExternalName"
  | .loadBalancer => "LoadBalancer"

/-- The other names a user may give for it. -/
def aliases : AddressKind → List String
  | .podIp => ["pod"]
  | .externalName => ["clustername"]
  | .loadBalancer => ["lb"]
  | _ => []

/-- The kind that a name or an alias stands for, in any mix of cases. -/
def ofText? (s : String) : Option AddressKind :=
  all.find? fun k => s.toLower ∈ k.text :: k.aliases

/-- The address that leads to the pod, or none while the pod has not been given one. -/
def resolve (kind : AddressKind) (pod : Pod) (protocol : Protocol) (domain : String) :
    Option String :=
  match kind with
  | .podIp => pod.podIp.map Address.text
  | .clusterIp => pod.clusterIp.map Address.text
  | .nodePort => pod.hostIp.map Address.text
  | .externalName => some (pod.service.getD (pod.qualifiedAddress domain))
  | .loadBalancer =>
    (pod.externalIps.find? fun e => e.protocol = protocol).map fun e => e.ip.text

end AddressKind

/-- A source of service names that are all different, for several services in front of one pod. -/
structure ServiceNames where
  issued : UInt32 := 0
  deriving DecidableEq, Repr

/-- The next name for a pod, and what is left of the source. -/
def ServiceNames.next (names : ServiceNames) (pod : Pod) : String × ServiceNames :=
  let n := names.issued + 1
  (pod.serviceName ++ "-" ++ decimal n.toNat, ⟨n⟩)

end PodMesh
