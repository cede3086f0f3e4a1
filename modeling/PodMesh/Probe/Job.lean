import PodMesh.Matrix

/-!
# Jobs and outcomes

A job is one ordered pair of pods to be probed. It is settled without asking anyone when
the destination is left alone or something about the pair is unknown; otherwise a prober
is asked, and its reading is judged.
-/

namespace PodMesh

/-- How the pairs of a matrix are probed. -/
structure Plan where
  /-- The port to probe in place of each destination's own. -/
  port : Option UInt16 := none
  protocol : Protocol := .tcp
  kind : AddressKind := .podIp
  check : Check := .connect
  ignoreLoopback : Bool := true
  deriving DecidableEq, Repr

/-- One ordered pair of pods, with all that is known about how to probe it. -/
structure Job where
  source : Pod
  target : Pod
  plan : Plan
  domain : String
  deriving DecidableEq, Repr

/-- What became of a job. -/
structure Outcome where
  job : Job
  connected : Bool
  command : String
  rate : Option Rate
  error : Option ProbeError
  deriving DecidableEq, Repr

/-- A matrix refused an outcome. What was entered and said by then stays. -/
structure Refusal where
  fault : Fault
  matrix : Matrix
  notices : List Notice

namespace Job

/-- The plan's port, else the port of the destination's service, else that of its first container
for the plan's protocol. -/
def port? (job : Job) : Option UInt16 :=
  (job.plan.port.or job.target.servicePort).or (job.target.port? job.plan.protocol)

/-- What a prober is asked, or the first thing that is unknown: the address, the container to ask
from, or the port. -/
def question (job : Job) : Except ProbeError Target :=
  match job.plan.kind.resolve job.target job.plan.protocol job.domain with
  | none => .error (.noAddress job.plan.kind job.target.id)
  | some address =>
    match job.source.client? with
    | none => .error (.noContainers job.source.id)
    | some container =>
      match job.port? with
      | none => .error (.noPort job.plan.protocol job.target.id)
      | some port =>
        .ok { source := job.source.id, container, address, port
              protocol := job.plan.protocol, check := job.plan.check }

/-- What a job calls for: nothing, because its destination counts as reached; nothing, because it
cannot be probed; or a question to a prober. -/
inductive Call where
  | skip
  | hopeless (error : ProbeError)
  | ask (target : Target)
  deriving DecidableEq, Repr

def call (job : Job) : Call :=
  if job.target.skipped then .skip
  else
    match job.question with
    | .error error => .hopeless error
    | .ok target => .ask target

/-- The outcome of a job whose destination counts as reached. -/
def skipped (job : Job) : Outcome :=
  { job, connected := true, command := "skip", rate := none, error := none }

/-- The outcome of a job that cannot be probed. -/
def failed (job : Job) (error : ProbeError) : Outcome :=
  { job, connected := false, command := "", rate := none, error := some error }

/-- The outcome of a job that was probed. An error never counts as a connection, and a check of
the endpoint only counts when the destination itself answered. -/
def judged (job : Job) (reading : Reading) : Outcome :=
  { job
    connected := reading.connected && reading.error.isNone &&
      (job.plan.check ≠ .endpoint || reading.endpoint = some job.target.name)
    command := reading.command
    rate := reading.rate
    error := reading.error }

end Job

namespace Outcome

/-- What is said of an outcome before it is entered. -/
def announcement (o : Outcome) : Notice :=
  let source := o.job.source.id
  let target := o.job.target.id
  if o.job.target.skipped then .skipping source target else .probed source target o.command

/-- What is said about an outcome, given what was expected. -/
def notices (o : Outcome) (expected : Bool) : List Notice :=
  let source := o.job.source.id
  let target := o.job.target.id
  let errors (notice : ProbeError → Notice) : List Notice := o.error.toList.map notice
  o.announcement ::
    if o.connected ≠ expected then
      .mismatch source target :: errors .mismatchError ++
        [if expected then .blocked o.command else .allowed o.command]
    else errors (.failed source target)

/-- The next step of entering an outcome. If it is refused, the outcome has been announced, and the
matrix is as the steps before have left it. -/
def attempt {α : Type} (o : Outcome) (m : Matrix) (step : Except Fault α) : Except Refusal α :=
  step.mapError fun fault => ⟨fault, m, [o.announcement]⟩

/-- Enters an outcome into the observations of a matrix, and tells what is said about it. A rate is
only entered when the outcome has one. -/
def record (o : Outcome) (m : Matrix) : Except Refusal (Matrix × List Notice) := do
  let source := o.job.source.id
  let target := o.job.target.id
  let m ← o.attempt m (m.observe source target o.connected)
  let m ← match o.rate with
    | some rate => o.attempt m (m.observeRate source target rate)
    | none => pure m
  let expected ← o.attempt m (m.expectation source target)
  return (m, o.notices expected)

end Outcome

end PodMesh
