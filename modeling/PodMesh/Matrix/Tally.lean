import PodMesh.Matrix

/-!
# Tallies

How many observations of a matrix meet the expectation. The pairs of a pod with itself
may be left out of the count.
-/

namespace PodMesh

/-- The counts over a matrix, and the table that says where observation and expectation agree. -/
structure Tally where
  correct : Nat
  incorrect : Nat
  ignored : Nat
  comparison : Table

/-- Which grids are shown with a tally. -/
structure Grids where
  expected : Bool := false
  observed : Bool := false
  comparison : Bool := false
  rates : Bool := false
  deriving DecidableEq, Repr

/-- All grids but that of the rates. -/
def Grids.all : Grids := { expected := true, observed := true, comparison := true }

namespace Matrix

/-- How one cell of the comparison counts. -/
inductive Standing where
  | correct
  | incorrect
  | ignored
  | missing
  deriving DecidableEq, Repr

def standing (ignoreLoopback : Bool) : String × String × Option Bool → Standing
  | (source, target, value) =>
    if ignoreLoopback && source = target then .ignored
    else
      match value with
      | some true => .correct
      | some false => .incorrect
      | none => .missing

/-- The tally, with the notice that observations are missing where the comparison shows it. -/
def tally (m : Matrix) (ignoreLoopback : Bool) : Except Fault (Tally × List Notice) := do
  let comparison ← m.expected.compare m.observed
  let standings := comparison.cells.map (standing ignoreLoopback)
  let tally : Tally :=
    { correct := standings.count .correct
      incorrect := standings.count .incorrect
      ignored := standings.count .ignored
      comparison }
  return (tally, if comparison.isComplete then [] else [.observationsIncomplete])

/-- The tally with everything that is said about it, the chosen grids last. -/
def report (m : Matrix) (ignoreLoopback : Bool) (grids : Grids) :
    Except Fault (Tally × List Notice) := do
  let (tally, notices) ← m.tally ignoreLoopback
  let shown (wanted : Bool) (title text : String) : List Notice :=
    if wanted then [.grid title text] else []
  return (tally, notices ++
    (if 0 < tally.ignored then [.loopbackIgnored tally.ignored] else []) ++
    [.tally tally.correct tally.incorrect] ++
    shown grids.expected "expected" (m.expected.pretty "") ++
    shown grids.observed "observed" (m.observed.pretty "") ++
    shown grids.comparison "comparison" (tally.comparison.pretty "") ++
    shown grids.rates "bandwidth" (m.observed.prettyRates ""))

end Matrix

end PodMesh
