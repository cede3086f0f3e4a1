import PodMesh.Text.Line

/-!
# Pod identities

A pod is known by its namespace and its name. The printed form `namespace/name` is the
key of every reachability table.
-/

namespace PodMesh

/-- What tells one pod from another: its namespace and its name in it. -/
structure Identity where
  ns : String
  name : String
  deriving DecidableEq, Repr

namespace Identity

/-- The printed form. -/
def text (id : Identity) : String := id.ns ++ "/" ++ id.name

/-- Reads a printed form: exactly one slash, with something on either side of it. -/
def ofText? (s : String) : Option Identity :=
  match Text.splitOnce '/' s.toList with
  | some (ns, name) =>
    if ns.isEmpty || name.isEmpty || '/' ∈ name then none
    else some ⟨String.ofList ns, String.ofList name⟩
  | none => none

/-- Identities in order: by namespace, then by name. -/
def le (a b : Identity) : Bool :=
  a.ns < b.ns || (a.ns = b.ns && !(b.name < a.name))

/-- A list of identities, least first. -/
def sort (ids : List Identity) : List Identity := ids.mergeSort le

end Identity

end PodMesh
