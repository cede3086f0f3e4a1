import PodMesh.Readiness
import PodMesh.Validation

/-!
# Inquiries

A whole check of one cluster: which pods to leave alone, whether to wait until its servers
answer, what to expect of which pairs, and how to probe them. Rules that allow come before
rules that deny, so of two rules for a pair the one that denies wins, and a pair without a
rule is as the default says.
-/

namespace PodMesh

/-- Two peers, one on either side of a connection. -/
structure Rule where
  source : Peer
  target : Peer
  deriving DecidableEq, Repr

/-- What is expected of the pairs of a cluster. -/
structure Policy where
  /-- What is expected of a pair without a rule. -/
  default : Bool := true
  allow : List Rule := []
  deny : List Rule := []
  deriving DecidableEq, Repr

namespace Matrix

/-- Applies rules in order, all of them allowing or all of them denying. -/
def applyRules (m : Matrix) (allow : Bool) : List Rule → Except Fault (Matrix × List Notice)
  | [] => .ok (m, [])
  | r :: rest => do
    let (m, pairs) ← m.expectPeers r.source r.target allow
    let (m, notices) ← m.applyRules allow rest
    return (m, .rule allow r.source r.target pairs :: notices)

/-- The matrix over some pods that expects what a policy says. -/
def ofPolicy (pods : List Identity) (policy : Policy) : Except Fault (Matrix × List Notice) := do
  let m ← make pods policy.default
  let (m, allowed) ← m.applyRules true policy.allow
  let (m, denied) ← m.applyRules false policy.deny
  return (m, allowed ++ denied)

end Matrix

namespace Cluster

/-- Leaves alone the pods whose printed identity satisfies a test, if there is one, and tells which
and how many. -/
def excluding (c : Cluster) : Option (String → Bool) → Cluster × List Notice
  | none => (c, [])
  | some test =>
    let (c, ids) := c.exclude test
    (c, ids.map .excluding ++ [.excluded ids.length])

end Cluster

/-- What to find out about a cluster. -/
structure Inquiry where
  policy : Policy := {}
  plan : Plan := {}
  /-- How often to try servers before anything is validated; without it nothing is waited for. -/
  tries : Option Nat := none
  deriving DecidableEq, Repr

/-- How an inquiry comes out: with a number of wrong cells, or not at all. -/
abbrev Finding := Except Fault Nat

namespace Pool

variable {σ : Type}

/-- Waits until the servers of a cluster are ready, if it is said how often to try them. -/
def await (pool : Pool σ) (cluster : Cluster) (tries : Option Nat) (world : World σ) :
    Except Fault Unit × World σ :=
  match tries with
  | some tries => pool.waitReady cluster tries world
  | none => (.ok (), world)

/-- Makes an inquiry about a cluster and counts the wrong cells. -/
def inquire (pool : Pool σ) (cluster : Cluster) (inquiry : Inquiry) (world : World σ) :
    Finding × World σ :=
  match pool.await cluster inquiry.tries world with
  | (.error fault, world) => (.error fault, world)
  | (.ok (), world) =>
    match Matrix.ofPolicy cluster.ids inquiry.policy with
    | .error fault => (.error fault, world)
    | .ok (matrix, notices) =>
      let after := pool.validate cluster inquiry.plan matrix (world.say notices)
      (after.result, after.world)

end Pool

end PodMesh
