import PodMesh.Notice
import PodMesh.Table.Grid

/-!
# The reachability matrix

For every ordered pair of pods, a pod with itself included, whether a connection is
expected and whether one was observed.
-/

namespace PodMesh

/-- Expectations and observations over one list of pods. -/
structure Matrix where
  pods : List Identity
  expected : Table
  observed : Table

namespace Matrix

/-- A matrix that expects `default` of every pair and has observed nothing. -/
def make (pods : List Identity) (default : Bool) : Except Fault Matrix := do
  let keys := pods.map Identity.text
  return { pods
           expected := ← Table.square keys (some default)
           observed := ← Table.square keys none }

/-- Sets the expectation of one pair. -/
def expect (m : Matrix) (source target : Identity) (connected : Bool) : Except Fault Matrix := do
  return { m with expected := ← m.expected.set source.text target.text connected }

/-- The expectation of one pair. -/
def expectation (m : Matrix) (source target : Identity) : Except Fault Bool :=
  m.expected.get source.text target.text

/-- Records whether one pod reached another. -/
def observe (m : Matrix) (source target : Identity) (connected : Bool) : Except Fault Matrix := do
  return { m with observed := ← m.observed.set source.text target.text connected }

/-- Records the rate from one pod to another. -/
def observeRate (m : Matrix) (source target : Identity) (rate : Rate) : Except Fault Matrix := do
  return { m with observed := ← m.observed.setRate source.text target.text rate }

/-- The ordered pairs of pods that two peers cover. -/
def covered (m : Matrix) (source target : Peer) : List (Identity × Identity) :=
  (m.pods.filter source.covers).flatMap fun p =>
    (m.pods.filter target.covers).map fun q => (p, q)

/-- Sets the expectation of every pair that two peers cover, and counts the pairs. -/
def expectPeers (m : Matrix) (source target : Peer) (connected : Bool) :
    Except Fault (Matrix × Nat) := do
  let pairs := m.covered source target
  let m ← pairs.foldlM (fun m (p, q) => m.expect p q connected) m
  return (m, pairs.length)

end Matrix

end PodMesh
