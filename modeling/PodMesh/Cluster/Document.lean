import PodMesh.Cluster
import PodMesh.Host.Files
import PodMesh.Json.Record
import PodMesh.Notice

/-!
# Cluster documents

The JSON form of clusters and of everything in them, and how a cluster is loaded from a
file. A document may leave out whatever has a natural default.
-/

namespace PodMesh

open Json (Format Field Record)

/-! ## Formats -/

namespace Protocol

/-- Protocols by their names in upper case. -/
def format : Format Protocol := Format.choice (all.map fun p => (p.text, p)) text

end Protocol

namespace AddressKind

/-- Kinds of address by their names in model files. -/
def format : Format AddressKind := Format.choice (all.map fun k => (k.fileName, k)) fileName

end AddressKind

namespace Rate

def record : Record Rate where
  title := "Bandwidth"
  blank := ⟨Binary64.ofNat 0⟩
  fields := [.make "bits" .float Rate.bits (fun _ bits => ⟨bits⟩) true]

end Rate

namespace Identity

def record : Record Identity where
  title := "PodId"
  blank := ⟨"", ""⟩
  fields :=
    [.make "ns" .string Identity.ns (fun id ns => { id with ns }) true,
      .make "name" .string Identity.name (fun id name => { id with name }) true]

end Identity

namespace ExternalAddress

def record : Record ExternalAddress where
  title := "ExternalIp"
  blank := ⟨.v4 #v[0, 0, 0, 0], .tcp⟩
  fields :=
    [.make "ip" .address ExternalAddress.ip (fun e ip => { e with ip }) true,
      .make "protocol" Protocol.format ExternalAddress.protocol
        (fun e protocol => { e with protocol }) true]

end ExternalAddress

namespace Container

def record : Record Container where
  title := "Container"
  blank := { port := 0, protocol := .tcp }
  fields :=
    [.make "name" (.nullable .string) Container.name? (fun c name? => { c with name? }) false,
      .make "port" .word Container.port (fun c port => { c with port }) true,
      .make "protocol" Protocol.format Container.protocol
        (fun c protocol => { c with protocol }) true]

end Container

namespace Pod

/-- Pods. Every field may be left out. -/
def record : Record Pod where
  title := "Pod"
  blank := {}
  fields :=
    [.make "ns" .string Pod.ns (fun p ns => { p with ns }) false,
      .make "name" .string Pod.name (fun p name => { p with name }) false,
      .make "containers" (.list Container.record.format) Pod.containers
        (fun p containers => { p with containers }) false,
      .make "node" (.nullable .string) Pod.node (fun p node => { p with node }) false,
      .make "pod_ip" (.nullable .address) Pod.podIp (fun p podIp => { p with podIp }) false,
      .make "host_ip" (.nullable .address) Pod.hostIp (fun p hostIp => { p with hostIp }) false,
      .make "cluster_ip" (.nullable .address) Pod.clusterIp
        (fun p clusterIp => { p with clusterIp }) false,
      .make "external_ips" (.list ExternalAddress.record.format) Pod.externalIps
        (fun p externalIps => { p with externalIps }) false,
      .make "service" (.nullable .string) Pod.service (fun p service => { p with service }) false,
      .make "to_port" (.nullable .word) Pod.servicePort
        (fun p servicePort => { p with servicePort }) false,
      .make "skip_probe" .bool Pod.skipped (fun p skipped => { p with skipped }) false]

end Pod

namespace Namespace

def record : Record Namespace where
  title := "Namespace"
  blank := {}
  fields :=
    [.make "name" .string Namespace.name (fun n name => { n with name }) true,
      .make "pods" (.list Pod.record.format) Namespace.pods (fun n pods => { n with pods }) false]

end Namespace

namespace Cluster

/-- The domain of a cluster that names none. -/
def defaultDomain : String := "cluster.local"

/-- Clusters as documents hold them, which may list two pods of one identity. -/
def record : Record Cluster where
  title := "Model"
  blank := ⟨[], defaultDomain⟩
  fields :=
    [.make "namespaces" (.list Namespace.record.format) Cluster.namespaces
        (fun c namespaces => { c with namespaces }) true,
      .make "dns_domain" .string Cluster.domain (fun c domain => { c with domain }) false]

/-! ## Loading -/

/-- Why a cluster cannot be loaded. -/
inductive LoadFault where
  | unreadable (path : String) (fault : Host.FileFault)
  | document (fault : Json.Fault)
  | refused (fault : Fault)
  deriving DecidableEq, Repr

/-- Why a cluster cannot be loaded, in words. Of a document this is what is wrong with it,
without the line and the column. -/
def LoadFault.message : LoadFault → String
  | .unreadable path fault => "unable to read model " ++ path ++ ": " ++ fault.message
  | .document fault => fault.message
  | .refused fault => fault.message

/-- The cluster in the content of a file, with what is said about it. -/
def ofContent (path : String) (content : List UInt8) : Except LoadFault Cluster × List Notice :=
  match record.format.ofDocument (Text.decode content) with
  | .error fault => (.error (.document fault), [])
  | .ok c =>
    ((ofNamespaces c.namespaces c.domain).mapError .refused, [.loaded c.namespaces.length path])

/-- The cluster in a file, with what is said about it. -/
def load (files : Host.Files) (path : String) : Except LoadFault Cluster × List Notice :=
  match files.read path with
  | .error fault => (.error (.unreadable path fault), [])
  | .ok content => ofContent path content

end Cluster

end PodMesh
