import PodMesh.Probe.Job

/-!
# Probers

A prober answers questions about single targets. It may remember: what it answers next
may depend on everything it was asked before. It may also fail to answer at all, and
then whoever asked is lost with it.
-/

namespace PodMesh

/-- What comes of asking a prober: a reading and what the prober said meanwhile, or nothing ever. -/
inductive Answer where
  | reading (reading : Reading) (notices : List Notice)
  | death
  deriving DecidableEq, Repr

/-- A prober with memory `σ`. -/
structure Prober (σ : Type) where
  ask : σ → Target → Answer × σ

/-- One thing that was said or asked. -/
inductive Entry where
  /-- Said by the one who runs the passes. -/
  | said (notice : Notice)
  /-- Said by a worker. -/
  | saidByWorker (notice : Notice)
  /-- Put to the prober. -/
  | asked (target : Target)
  deriving DecidableEq, Repr

namespace Entry

/-- What was said by the one who runs the passes. -/
def said? : Entry → Option Notice
  | .said notice => some notice
  | _ => none

def saidByWorker? : Entry → Option Notice
  | .saidByWorker notice => some notice
  | _ => none

/-- What was said by anyone. -/
def notice? : Entry → Option Notice
  | .said notice | .saidByWorker notice => some notice
  | .asked _ => none

def asked? : Entry → Option Target
  | .asked target => some target
  | _ => none

end Entry

/-- Everything that was said and asked, in order. -/
abbrev Journal := List Entry

/-- What lives on from pass to pass: the prober's memory, the time, and the journal. -/
structure World (σ : Type) where
  memory : σ
  /-- How many steps all threads have made. -/
  clock : Nat := 0
  journal : Journal := []

namespace World

variable {σ : Type}

/-- The world after something was said. -/
def say (w : World σ) (notices : List Notice) : World σ :=
  { w with journal := w.journal ++ notices.map .said }

/-- The world after a worker asked the prober, and the answer. -/
def ask (w : World σ) (prober : Prober σ) (target : Target) : Answer × World σ :=
  let (answer, memory) := prober.ask w.memory target
  let said := match answer with
    | .reading _ notices => notices
    | .death => []
  (answer, { w with
    memory, journal := w.journal ++ .asked target :: said.map .saidByWorker })

/-- The world after one more step. -/
def tick (w : World σ) : World σ := { w with clock := w.clock + 1 }

/-- The world with an empty journal. -/
def fresh (w : World σ) : World σ := { w with journal := [] }

end World

end PodMesh
