import PodMesh.Fault

/-!
# Clusters

The namespaces of a cluster and the pods in them. A cluster that is put together here
never holds two pods of one identity. A namespace may be listed more than once; adding
and removing pods then concerns the first listing.
-/

namespace PodMesh

/-- A namespace and its pods. -/
structure Namespace where
  name : String := ""
  pods : List Pod := []
  deriving DecidableEq, Repr

/-- The pods of a cluster, and the domain of its service names. -/
structure Cluster where
  namespaces : List Namespace
  domain : String
  deriving DecidableEq, Repr

/-- The namespace with every pod moved into it. -/
def Namespace.adopt (n : Namespace) : Namespace :=
  { n with pods := n.pods.map fun p => { p with ns := n.name } }

namespace Cluster

/-- Every pod, namespace by namespace. -/
def pods (c : Cluster) : List Pod := c.namespaces.flatMap Namespace.pods

/-- The identity of every pod, in the same order. -/
def ids (c : Cluster) : List Identity := c.pods.map Pod.id

/-- A cluster of namespaces, each pod belonging to the namespace that lists it. Refused if two pods
have one identity. -/
def ofNamespaces (namespaces : List Namespace) (domain : String) : Except Fault Cluster :=
  let c : Cluster := ⟨namespaces.map Namespace.adopt, domain⟩
  match firstRepeat? c.ids with
  | some id => .error (.duplicate id.text)
  | none => .ok c

/-- A cluster with a pod of each name in each namespace, each pod serving every port over every
protocol. -/
def build (namespaces pods : List String) (ports : List UInt16) (protocols : List Protocol)
    (domain : String) : Except Fault Cluster :=
  let containers := ports.flatMap fun port => protocols.map fun protocol => { port, protocol }
  let pods (ns : String) : List Pod := pods.map fun name => { ns, name, containers }
  ofNamespaces (namespaces.map fun ns => ⟨ns, pods ns⟩) domain

/-! ## Single pods -/

/-- The first pod of an identity, by the namespaces that list it. -/
def find? (c : Cluster) (id : Identity) : Option Pod :=
  ((c.namespaces.filter fun n => n.name = id.ns).flatMap Namespace.pods).find?
    fun p => p.name = id.name

/-- A list with its first element that satisfies a test changed, if there is one. -/
def modifyFirst? {α : Type} (test : α → Bool) (change : α → α) : List α → Option (List α)
  | [] => none
  | x :: xs =>
    if test x then some (change x :: xs) else (modifyFirst? test change xs).map (x :: ·)

/-- The first namespace in which a change of its pods succeeds, changed. -/
def changeFirst? (test : Namespace → Bool) (change : List Pod → Option (List Pod)) :
    List Namespace → Option (List Namespace)
  | [] => none
  | n :: rest =>
    match if test n then change n.pods else none with
    | some pods => some ({ n with pods } :: rest)
    | none => (changeFirst? test change rest).map (n :: ·)

/-- Changes the first pod of an identity, if there is one. -/
def modify? (c : Cluster) (id : Identity) (change : Pod → Pod) : Option Cluster :=
  (changeFirst? (fun n => n.name = id.ns) (modifyFirst? (fun p => p.name = id.name) change)
    c.namespaces).map fun namespaces => { c with namespaces }

/-- Adds a pod at the end of a namespace, a new one if need be. Refused if the namespace already
holds a pod of that name. -/
def addPod (c : Cluster) (pod : Pod) (ns : String) : Except Fault Cluster :=
  let pod := { pod with ns }
  match go pod c.namespaces with
  | some namespaces => .ok { c with namespaces }
  | none => .error (.duplicate pod.id.text)
where
  go (pod : Pod) : List Namespace → Option (List Namespace)
    | [] => some [⟨pod.ns, [pod]⟩]
    | n :: rest =>
      if n.name = pod.ns then
        if n.pods.any fun p => p.name = pod.name then none
        else some ({ n with pods := n.pods ++ [pod] } :: rest)
      else (go pod rest).map (n :: ·)

/-- A list without its first element that satisfies a test, and that element. -/
def takeFirst? {α : Type} (test : α → Bool) : List α → Option (α × List α)
  | [] => none
  | x :: xs =>
    if test x then some (x, xs)
    else (takeFirst? test xs).map fun (y, ys) => (y, x :: ys)

/-- Removes a pod from a namespace. -/
def removePod (c : Cluster) (id : Identity) : Except Fault (Pod × Cluster) :=
  match go c.namespaces with
  | some (pod, namespaces) => .ok (pod, { c with namespaces })
  | none => .error (.noSuchPod id)
where
  go : List Namespace → Option (Pod × List Namespace)
    | [] => none
    | n :: rest =>
      if n.name = id.ns then
        (takeFirst? (fun p => p.name = id.name) n.pods).map fun (pod, pods) =>
          (pod, { n with pods } :: rest)
      else (go rest).map fun (pod, rest) => (pod, n :: rest)

/-! ## What the pods serve -/

/-- A list without the elements that equal an earlier one. -/
def distinct {α : Type} [DecidableEq α] : List α → List α :=
  go []
where
  go (seen : List α) : List α → List α
    | [] => []
    | x :: xs => if x ∈ seen then go seen xs else x :: go (x :: seen) xs

def containers (c : Cluster) : List Container := c.pods.flatMap Pod.containers

/-- The ports that containers serve, in the order they first occur. Port 0 is none. -/
def ports (c : Cluster) : List UInt16 :=
  distinct ((c.containers.map Container.port).filter (· ≠ 0))

/-- The protocols that containers serve, in the order they first occur. -/
def protocols (c : Cluster) : List Protocol :=
  distinct (c.containers.map Container.protocol)

/-! ## Exclusion -/

/-- Leaves alone every pod whose printed identity satisfies a test. Also gives the identities of
those pods. -/
def exclude (c : Cluster) (test : String → Bool) : Cluster × List Identity :=
  let mark (p : Pod) : Pod := if test p.id.text then { p with skipped := true } else p
  ({ c with namespaces := c.namespaces.map fun n => { n with pods := n.pods.map mark } },
    c.ids.filter fun id => test id.text)

end Cluster

end PodMesh
