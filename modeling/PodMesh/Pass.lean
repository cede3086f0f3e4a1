import PodMesh.Cluster
import PodMesh.Prober

/-!
# Passes

A pass probes every ordered pair of pods once and records the outcomes. One main thread
and a number of workers share the work. The main thread puts all jobs into a queue,
closes it, and then takes outcomes from a second queue until it has one for each job;
each worker takes a job, settles it, and puts the outcome into the second queue. Both
queues hold as many items as there are jobs.

A queue is closed for its readers once no writer is left and it is empty, and a writer
notices when no reader is left. So a worker that is lost takes its job with it, the
others go on, and the main thread ends the pass when nobody can send it anything more.

Each thread is deterministic; which of them moves next is not. A schedule names the
thread to move at each tick of the clock, and where that one cannot move the first
that can does. What holds for every schedule holds for every interleaving.
-/

namespace PodMesh

/-- The main thread, or one of the workers. -/
inductive Thread where
  | main
  | worker (i : Nat)
  deriving DecidableEq, Repr

/-- Workers that share a prober, and the schedule that they and the main thread move by. -/
structure Pool (σ : Type) where
  prober : Prober σ
  workers : Nat
  schedule : Nat → Thread

namespace Pool

/-- The number of workers where none is asked for. -/
def defaultWorkers : Nat := 3

/-- A pool of at least one worker that moves the main thread whenever it can move, and else the
first worker that can. -/
def make {σ : Type} (prober : Prober σ) (workers : Option Nat) : Pool σ :=
  { prober
    workers := max 1 (workers.getD defaultWorkers)
    schedule := fun _ => .main }

end Pool

namespace Pass

/-- Where the main thread stands. -/
inductive Main where
  /-- Putting jobs into their queue. -/
  | sending
  /-- Taking outcomes, so many of which it has. -/
  | receiving (count : Nat)
  /-- Waiting for the workers to leave. -/
  | joining
  | ended (result : Except Fault Unit)

/-- Where a worker stands. -/
inductive Worker where
  | idle
  /-- With a job that is not settled yet. -/
  | holding (job : Job)
  /-- With an outcome that is not delivered yet. -/
  | carrying (outcome : Outcome)
  /-- Left, because there was nothing more to do. -/
  | gone
  /-- Lost with its job. -/
  | lost
  deriving DecidableEq

/-- Has the worker stopped for good? -/
def Worker.stopped : Worker → Bool
  | .gone | .lost => true
  | _ => false

/-- How many steps a worker may still make, its share of the receiving counted in. -/
def Worker.weight : Worker → Nat
  | .idle => 1
  | .holding _ => 5
  | .carrying _ => 4
  | .gone | .lost => 0

/-- How many steps the main thread may still make, those for jobs and outcomes left out. -/
def Main.weight : Main → Nat
  | .sending => 3
  | .receiving _ => 2
  | .joining => 1
  | .ended _ => 0

/-- A pass under way. -/
structure State (σ : Type) where
  main : Main
  /-- The jobs not yet in the queue. -/
  unsent : List Job
  queue : List Job
  workers : List Worker
  results : List Outcome
  matrix : Matrix
  world : World σ

namespace State

variable {σ : Type}

/-- Has every worker stopped? -/
def deserted (s : State σ) : Bool := s.workers.all Worker.stopped

/-- Has the main thread ended, so that nobody takes outcomes any more? -/
def isEnded (s : State σ) : Bool :=
  match s.main with
  | .ended _ => true
  | _ => false

/-- Will no more jobs be put into the queue? -/
def closed (s : State σ) : Bool :=
  match s.main with
  | .sending => false
  | _ => true

/-- The state with worker `i` at another point. -/
def put (s : State σ) (i : Nat) (worker : Worker) : State σ :=
  { s with workers := s.workers.set i worker }

/-! ## Steps -/

/-- The next step of the main thread, in a pass of `size` jobs; none while it has to wait. -/
def stepMain (size : Nat) (s : State σ) : Option (State σ) :=
  match s.main with
  | .sending =>
    match s.unsent with
    | [] => some { s with main := .receiving 0 }
    | job :: rest =>
      if s.deserted then some { s with main := .ended (.error .workersGone) }
      else if s.queue.length < max 1 size then
        some { s with unsent := rest, queue := s.queue ++ [job] }
      else none
  | .receiving count =>
    if count = size then some { s with main := .joining }
    else
      match s.results with
      | outcome :: rest =>
        match outcome.record s.matrix with
        | .ok (matrix, notices) =>
          some { s with
            main := .receiving (count + 1), results := rest, matrix := matrix
            world := s.world.say notices }
        | .error refusal =>
          some { s with
            main := .ended (.error refusal.fault), results := rest, matrix := refusal.matrix
            world := s.world.say refusal.notices }
      | [] =>
        if s.deserted then some { s with main := .ended (.error (.incomplete count size)) }
        else none
  | .joining =>
    if s.deserted then
      let lost := s.workers.filter (· = .lost)
      some { s with main := .ended (.ok ()), world := s.world.say (lost.map fun _ => .workerLost) }
    else none
  | .ended _ => none

/-- The next step of worker `i`; none while it has to wait or after it has stopped. -/
def stepWorker (prober : Prober σ) (size : Nat) (s : State σ) (i : Nat) : Option (State σ) :=
  match s.workers[i]? with
  | some .idle =>
    match s.queue with
    | job :: rest => some { s.put i (.holding job) with queue := rest }
    | [] => if s.closed then some (s.put i .gone) else none
  | some (.holding job) =>
    match job.call with
    | .skip => some (s.put i (.carrying job.skipped))
    | .hopeless error => some (s.put i (.carrying (job.failed error)))
    | .ask target =>
      match s.world.ask prober target with
      | (.reading reading _, world) =>
        some { s.put i (.carrying (job.judged reading)) with world := world }
      | (.death, world) => some { s.put i .lost with world := world }
  | some (.carrying outcome) =>
    if s.isEnded then some (s.put i .gone)
    else if s.results.length < max 1 size then
      some { s.put i .idle with results := s.results ++ [outcome] }
    else none
  | _ => none

/-- The next step of a thread, which takes one tick. -/
def step (prober : Prober σ) (size : Nat) (s : State σ) (thread : Thread) : Option (State σ) :=
  let moved := match thread with
    | .main => s.stepMain size
    | .worker i => s.stepWorker prober size i
  moved.map fun (s : State σ) => { s with world := s.world.tick }

/-- Every thread of the pass. -/
def threads (s : State σ) : List Thread :=
  .main :: (List.range s.workers.length).map .worker

/-- The step of the scheduled thread, or of the first that can move. -/
def next (pool : Pool σ) (size : Nat) (s : State σ) : Option (State σ) :=
  (s.step pool.prober size (pool.schedule s.world.clock)).orElse fun _ =>
    s.threads.findSome? (s.step pool.prober size)

/-! ## Running to the end -/

/-- How much is left to be done. Every step makes it less. -/
def weight (s : State σ) : Nat :=
  6 * s.unsent.length + 5 * s.queue.length + 2 * s.results.length +
    (s.workers.map Worker.weight).foldr (· + ·) 0 + s.main.weight

/-- The state in which the main thread has ended, after at most so many steps. -/
def run (pool : Pool σ) (size : Nat) : Nat → State σ → State σ
  | 0, s => s
  | steps + 1, s =>
    match s.main with
    | .ended _ => s
    | _ =>
      match s.next pool size with
      | some s => run pool size steps s
      | none => s

/-- What the pass came to. One that has not ended got no further than it got. -/
def result (size : Nat) (s : State σ) : Except Fault Unit :=
  match s.main with
  | .ended result => result
  | .receiving count => .error (.incomplete count size)
  | _ => .error (.incomplete 0 size)

end State

/-- What a piece of work that makes passes leaves behind. -/
structure After (σ α : Type) where
  result : Except Fault α
  matrix : Matrix
  world : World σ

/-- Every ordered pair of pods of a cluster as a job, source by source. -/
def jobs (cluster : Cluster) (plan : Plan) : List Job :=
  cluster.pods.flatMap fun source =>
    cluster.pods.map fun target => { source, target, plan, domain := cluster.domain }

/-- The pass as it starts. -/
def start {σ : Type} (pool : Pool σ) (jobs : List Job) (matrix : Matrix) (world : World σ) :
    State σ :=
  { main := .sending, unsent := jobs, queue := [], results := [], matrix, world
    workers := List.replicate pool.workers .idle }

end Pass

/-- Makes one pass over the pods of a cluster, which must be those of the matrix. -/
def Pool.pass {σ : Type} (pool : Pool σ) (cluster : Cluster) (plan : Plan) (matrix : Matrix)
    (world : World σ) : Pass.After σ Unit :=
  if cluster.ids = matrix.pods then
    let jobs := Pass.jobs cluster plan
    let first := Pass.start pool jobs matrix world
    let last := first.run pool jobs.length first.weight
    ⟨last.result jobs.length, last.matrix, last.world⟩
  else ⟨.error (.shape (.pods cluster.ids.length matrix.pods.length)), matrix, world⟩

end PodMesh
