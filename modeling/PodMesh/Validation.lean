import PodMesh.Matrix.Tally
import PodMesh.Pass

/-!
# Validation

A matrix is validated in one pass, or in two: a second pass is made when the first finds
any wrong cell, and the last pass made decides.
-/

namespace PodMesh

/-- The grids to show for a check: the rates only where rates were measured. -/
def Grids.forCheck (check : Check) : Grids :=
  { Grids.all with rates := check = .bandwidth }

namespace Pool

variable {σ : Type}

/-- A second pass, with the notice why, if the first left wrong cells. -/
def retry (pool : Pool σ) (cluster : Cluster) (plan : Plan) (incorrect : Nat) (matrix : Matrix)
    (world : World σ) : Pass.After σ Unit :=
  if incorrect = 0 then ⟨.ok (), matrix, world⟩
  else pool.pass cluster plan matrix (world.say [.secondTry incorrect])

/-- The final count of wrong cells, with everything that is said about it. -/
def verdict (plan : Plan) (matrix : Matrix) (world : World σ) : Pass.After σ Nat :=
  match matrix.report plan.ignoreLoopback (Grids.forCheck plan.check) with
  | .error fault => ⟨.error fault, matrix, world⟩
  | .ok (tally, notices) =>
    let last : Notice := if tally.incorrect = 0 then .passed else .wrong tally.incorrect
    ⟨.ok tally.incorrect, matrix, world.say (notices ++ [last])⟩

/-- Probes the pods of a cluster, once more if anything is wrong, and counts the wrong cells. -/
def validate (pool : Pool σ) (cluster : Cluster) (plan : Plan) (matrix : Matrix)
    (world : World σ) : Pass.After σ Nat :=
  match pool.pass cluster plan matrix (world.say [.firstTry]) with
  | ⟨.error fault, matrix, world⟩ => ⟨.error fault, matrix, world⟩
  | ⟨.ok (), matrix, world⟩ =>
    match matrix.tally plan.ignoreLoopback with
    | .error fault => ⟨.error fault, matrix, world⟩
    | .ok (tally, notices) =>
      match pool.retry cluster plan tally.incorrect matrix (world.say notices) with
      | ⟨.error fault, matrix, world⟩ => ⟨.error fault, matrix, world⟩
      | ⟨.ok (), matrix, world⟩ => verdict plan matrix world

end Pool

end PodMesh
