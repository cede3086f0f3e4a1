import PodMesh.Identity

/-!
# Peers

One side of a connectivity rule: a namespace and a pod name, either of which may be
left open.
-/

namespace PodMesh

/-- A set of pods: those of a namespace, of a name, or both. What is left out may be anything. -/
structure Peer where
  ns : Option String := none
  pod : Option String := none
  deriving DecidableEq, Repr

namespace Peer

/-- The peer that covers every pod. -/
def any : Peer := {}

/-- Does a pod belong to the set? -/
def covers (peer : Peer) (id : Identity) : Bool :=
  peer.ns.all (· = id.ns) && peer.pod.all (· = id.name)

/-- The printed form, with `*` for what is left open. -/
def text (peer : Peer) : String := peer.ns.getD "*" ++ "/" ++ peer.pod.getD "*"

/-- One half of a written peer. An empty half and `*` leave it open. -/
def half (cs : List Char) : Option String :=
  if cs = [] || cs = ['*'] then none else some (String.ofList cs)

/-- Reads a peer: a namespace, or a namespace and a pod name around the only slash. -/
def ofText? (s : String) : Option Peer :=
  match Text.splitOnce '/' s.toList with
  | some (ns, pod) => if '/' ∈ pod then none else some ⟨half ns, half pod⟩
  | none => some ⟨half s.toList, none⟩

end Peer

end PodMesh
