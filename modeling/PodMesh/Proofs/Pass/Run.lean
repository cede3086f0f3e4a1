import PodMesh.Pass

/-!
# Runs of a pass

A run is any interleaving of the main thread and the workers: at each step some thread that
can move does, and no schedule is asked. What a step does to the jobs is kept beside the
state as a list of `Event`s, since the state itself forgets who asked what and which
outcomes were produced.

`Move` lists everything a thread can do, one case for each action, with the moving worker
cut out of its row. `step_move` is the only place that looks into the steps themselves; the
invariants of a pass are proved by cases on `Move`.
-/

namespace PodMesh

/-- The pool under another schedule. -/
def Pool.under {σ : Type} (pool : Pool σ) (schedule : Nat → Thread) : Pool σ :=
  { pool with schedule }

namespace Pass

variable {σ : Type}

/-! ## What happens to jobs -/

/-- Something that happens to a job. -/
inductive Event where
  /-- A worker asked the prober about its job, and this came of it. -/
  | asked (job : Job) (target : Target) (answer : Answer)
  /-- A worker settled its job. -/
  | settled (outcome : Outcome)
  /-- The main thread entered an outcome into the matrix. -/
  | entered (outcome : Outcome)
  /-- An outcome went nowhere: the matrix refused it, or nobody was left to take it. -/
  | dropped (outcome : Outcome)

namespace Event

/-- A question to the prober: the job it was about, what was asked, and the answer. -/
def call? : Event → Option (Job × Target × Answer)
  | .asked job target answer => some (job, target, answer)
  | _ => none

/-- A job whose question killed the worker. -/
def lost? : Event → Option Job
  | .asked job _ .death => some job
  | _ => none

def settled? : Event → Option Outcome
  | .settled outcome => some outcome
  | _ => none

def entered? : Event → Option Outcome
  | .entered outcome => some outcome
  | _ => none

def dropped? : Event → Option Outcome
  | .dropped outcome => some outcome
  | _ => none

end Event

/-- The questions to the prober, in the order they were asked. -/
def calls (events : List Event) : List (Job × Target × Answer) := events.filterMap Event.call?

/-- The jobs that were lost with their workers. -/
def losses (events : List Event) : List Job := events.filterMap Event.lost?

/-- The outcomes that were produced. -/
def produced (events : List Event) : List Outcome := events.filterMap Event.settled?

/-- The outcomes that were recorded, in the order they were entered. -/
def recorded (events : List Event) : List Outcome := events.filterMap Event.entered?

/-- The outcomes that were produced in vain. -/
def wasted (events : List Event) : List Outcome := events.filterMap Event.dropped?

/-- What happens to a job when a worker settles it with the help of a prober. -/
def settling (ask : Target → Answer) (job : Job) : List Event :=
  match job.call with
  | .skip => [.settled job.skipped]
  | .hopeless error => [.settled (job.failed error)]
  | .ask target =>
    match ask target with
    | .reading reading notices =>
      [.asked job target (.reading reading notices), .settled (job.judged reading)]
    | .death => [.asked job target .death]

namespace State

/-- What happens to jobs by the next step of a thread. -/
def events (prober : Prober σ) (size : Nat) (s : State σ) : Thread → List Event
  | .main =>
    match s.main, s.results with
    | .receiving count, outcome :: _ =>
      if count = size then []
      else
        match outcome.record s.matrix with
        | .ok _ => [.entered outcome]
        | .error _ => [.dropped outcome]
    | _, _ => []
  | .worker i =>
    match s.workers[i]? with
    | some (.holding job) => settling (fun target => (prober.ask s.world.memory target).1) job
    | some (.carrying outcome) => if s.isEnded then [.dropped outcome] else []
    | _ => []

end State

/-- The runs that start in a state: what happened to jobs, and the state reached. -/
inductive Run (prober : Prober σ) (size : Nat) (first : State σ) : List Event → State σ → Prop where
  | start : Run prober size first [] first
  | step {events : List Event} {s s' : State σ} {thread : Thread} :
      Run prober size first events s → s.step prober size thread = some s' →
      Run prober size first (events ++ s.events prober size thread) s'

/-- The ways in which a pass over the pods of a cluster can end, each with what happened to jobs
on the way. Schedules have no say in it. -/
def Ends (pool : Pool σ) (cluster : Cluster) (plan : Plan) (matrix : Matrix) (world : World σ)
    (events : List Event) (after : After σ Unit) : Prop :=
  ∃ last : State σ,
    Run pool.prober (jobs cluster plan).length (start pool (jobs cluster plan) matrix world)
      events last ∧
    last.main = .ended after.result ∧ last.matrix = after.matrix ∧ last.world = after.world

/-- An outcome that a worker comes to without asking. -/
def Unasked (job : Job) (outcome : Outcome) : Prop :=
  job.call = .skip ∧ outcome = job.skipped ∨
    ∃ error, job.call = .hopeless error ∧ outcome = job.failed error

theorem Unasked.job_eq {job : Job} {outcome : Outcome} (h : Unasked job outcome) :
    outcome.job = job := by
  rcases h with ⟨_, rfl⟩ | ⟨error, _, rfl⟩ <;> rfl

/-! ## What a step can do -/

/-- Everything that a thread can do in a state: what happens to jobs by it, and the next state. -/
inductive Move (prober : Prober σ) (size : Nat) (s : State σ) : List Event → State σ → Prop where
  /-- The main thread puts a job into the queue. -/
  | send {job : Job} {rest : List Job} :
      s.main = .sending → s.unsent = job :: rest → s.deserted = false →
      s.queue.length < max 1 size →
      Move prober size s []
        { s with unsent := rest, queue := s.queue ++ [job], world := s.world.tick }
  /-- The main thread finds no worker left to send a job to. -/
  | giveUp {job : Job} {rest : List Job} :
      s.main = .sending → s.unsent = job :: rest → s.deserted = true →
      Move prober size s []
        { s with main := .ended (.error .workersGone), world := s.world.tick }
  /-- The main thread has sent every job. -/
  | close :
      s.main = .sending → s.unsent = [] →
      Move prober size s [] { s with main := .receiving 0, world := s.world.tick }
  /-- The main thread enters an outcome. -/
  | enter {count : Nat} {outcome : Outcome} {rest : List Outcome} {matrix : Matrix}
      {notices : List Notice} :
      s.main = .receiving count → count ≠ size → s.results = outcome :: rest →
      outcome.record s.matrix = .ok (matrix, notices) →
      Move prober size s [.entered outcome]
        { s with
          main := .receiving (count + 1), results := rest, matrix := matrix
          world := (s.world.say notices).tick }
  /-- The matrix refuses an outcome. -/
  | refuse {count : Nat} {outcome : Outcome} {rest : List Outcome} {refusal : Refusal} :
      s.main = .receiving count → count ≠ size → s.results = outcome :: rest →
      outcome.record s.matrix = .error refusal →
      Move prober size s [.dropped outcome]
        { s with
          main := .ended (.error refusal.fault), results := rest, matrix := refusal.matrix
          world := (s.world.say refusal.notices).tick }
  /-- The main thread has an outcome for every job. -/
  | complete :
      s.main = .receiving size →
      Move prober size s [] { s with main := .joining, world := s.world.tick }
  /-- The main thread finds no worker left to wait for. -/
  | fallShort {count : Nat} :
      s.main = .receiving count → count ≠ size → s.results = [] → s.deserted = true →
      Move prober size s []
        { s with main := .ended (.error (.incomplete count size)), world := s.world.tick }
  /-- The main thread has seen every worker leave. -/
  | join :
      s.main = .joining → s.deserted = true →
      Move prober size s []
        { s with
          main := .ended (.ok ())
          world := (s.world.say ((s.workers.filter (· = .lost)).map fun _ => .workerLost)).tick }
  /-- A worker takes a job. -/
  | take {before after : List Worker} {job : Job} {rest : List Job} :
      s.workers = before ++ .idle :: after → s.queue = job :: rest →
      Move prober size s []
        { s with
          workers := before ++ .holding job :: after, queue := rest, world := s.world.tick }
  /-- A worker leaves, since there are no more jobs to come. -/
  | leave {before after : List Worker} :
      s.workers = before ++ .idle :: after → s.queue = [] → s.closed = true →
      Move prober size s []
        { s with workers := before ++ .gone :: after, world := s.world.tick }
  /-- A worker settles a job without asking. -/
  | settle {before after : List Worker} {job : Job} {outcome : Outcome} :
      s.workers = before ++ .holding job :: after → Unasked job outcome →
      Move prober size s [.settled outcome]
        { s with workers := before ++ .carrying outcome :: after, world := s.world.tick }
  /-- A worker asks the prober, and settles a job by the answer. -/
  | ask {before after : List Worker} {job : Job} {target : Target} {reading : Reading}
      {notices : List Notice} :
      s.workers = before ++ .holding job :: after → job.call = .ask target →
      (prober.ask s.world.memory target).1 = .reading reading notices →
      Move prober size s
        [.asked job target (.reading reading notices), .settled (job.judged reading)]
        { s with
          workers := before ++ .carrying (job.judged reading) :: after
          world := (s.world.ask prober target).2.tick }
  /-- A worker asks the prober, and is lost with its job. -/
  | die {before after : List Worker} {job : Job} {target : Target} :
      s.workers = before ++ .holding job :: after → job.call = .ask target →
      (prober.ask s.world.memory target).1 = .death →
      Move prober size s [.asked job target .death]
        { s with
          workers := before ++ .lost :: after, world := (s.world.ask prober target).2.tick }
  /-- A worker delivers an outcome. -/
  | deliver {before after : List Worker} {outcome : Outcome} :
      s.workers = before ++ .carrying outcome :: after → s.isEnded = false →
      s.results.length < max 1 size →
      Move prober size s []
        { s with
          workers := before ++ .idle :: after, results := s.results ++ [outcome]
          world := s.world.tick }
  /-- A worker leaves with an outcome that nobody takes. -/
  | discard {before after : List Worker} {outcome : Outcome} :
      s.workers = before ++ .carrying outcome :: after → s.isEnded = true →
      Move prober size s [.dropped outcome]
        { s with workers := before ++ .gone :: after, world := s.world.tick }

variable {prober : Prober σ} {size : Nat} {s s' : State σ}

/-- An element of a row, with what stands before and after it, and the row without it. -/
theorem set_eq_append {α : Type} {xs : List α} {i : Nat} {x : α} (h : xs[i]? = some x) :
    ∃ before after, xs = before ++ x :: after ∧
      ∀ y, xs.set i y = before ++ y :: after := by
  obtain ⟨hi, hx⟩ := List.getElem?_eq_some_iff.mp h
  refine ⟨xs.take i, xs.drop (i + 1), ?_, fun y => ?_⟩
  · rw [← hx, List.getElem_cons_drop, List.take_append_drop]
  · rw [List.set_eq_take_append_cons_drop, if_pos hi]

theorem stepMain_move (h : s.stepMain size = some s') :
    Move prober size s (s.events prober size .main) { s' with world := s'.world.tick } := by
  unfold State.stepMain at h
  split at h
  case h_1 hm =>
    have he : s.events prober size .main = [] := by simp only [State.events, hm]
    rw [he]
    split at h
    case h_1 hu =>
      injection h with h
      exact h ▸ .close hm hu
    case h_2 job rest hu =>
      split at h
      case isTrue hd =>
        injection h with h
        exact h ▸ .giveUp hm hu hd
      case isFalse hd =>
        split at h
        case isTrue hq =>
          injection h with h
          exact h ▸ .send hm hu (Bool.not_eq_true _ ▸ hd) hq
        case isFalse => exact absurd h (by simp)
  case h_2 count hm =>
    split at h
    case isTrue hc =>
      have he : s.events prober size .main = [] := by
        cases hr : s.results <;> simp only [State.events, hm, hr, hc, if_true]
      rw [he]
      injection h with h
      exact h ▸ .complete (hc ▸ hm)
    case isFalse hc =>
      split at h
      case h_1 outcome rest hr =>
        split at h
        case h_1 matrix notices ho =>
          have he : s.events prober size .main = [.entered outcome] := by
            simp only [State.events, hm, hr, hc, if_false, ho]
          rw [he]
          injection h with h
          exact h ▸ .enter hm hc hr ho
        case h_2 refusal ho =>
          have he : s.events prober size .main = [.dropped outcome] := by
            simp only [State.events, hm, hr, hc, if_false, ho]
          rw [he]
          injection h with h
          exact h ▸ .refuse hm hc hr ho
      case h_2 hr =>
        split at h
        case isTrue hd =>
          have he : s.events prober size .main = [] := by simp only [State.events, hm, hr]
          rw [he]
          injection h with h
          exact h ▸ .fallShort hm hc hr hd
        case isFalse => exact absurd h (by simp)
  case h_3 hm =>
    split at h
    case isTrue hd =>
      have he : s.events prober size .main = [] := by simp only [State.events, hm]
      rw [he]
      injection h with h
      exact h ▸ .join hm hd
    case isFalse => exact absurd h (by simp)
  case h_4 => exact absurd h (by simp)

theorem stepWorker_move {i : Nat} (h : s.stepWorker prober size i = some s') :
    Move prober size s (s.events prober size (.worker i)) { s' with world := s'.world.tick } := by
  unfold State.stepWorker at h
  unfold State.events
  split at h
  case h_1 hw =>
    obtain ⟨before, after, hws, hset⟩ := set_eq_append hw
    simp only [hw]
    split at h
    case h_1 job rest hq =>
      injection h with h
      subst h
      simp only [State.put, hset]
      exact .take hws hq
    case h_2 hq =>
      split at h
      case isTrue hc =>
        injection h with h
        subst h
        simp only [State.put, hset]
        exact .leave hws hq hc
      case isFalse => exact absurd h (by simp)
  case h_2 job hw =>
    obtain ⟨before, after, hws, hset⟩ := set_eq_append hw
    simp only [hw, settling]
    cases hc : job.call with
    | skip =>
      rw [hc] at h
      injection h with h
      subst h
      simp only [State.put, hset]
      exact .settle hws (.inl ⟨hc, rfl⟩)
    | hopeless error =>
      rw [hc] at h
      injection h with h
      subst h
      simp only [State.put, hset]
      exact .settle hws (.inr ⟨error, hc, rfl⟩)
    | ask target =>
      rw [hc] at h
      dsimp only at h ⊢
      have hans : (s.world.ask prober target).1 = (prober.ask s.world.memory target).1 := rfl
      rcases hask : s.world.ask prober target with ⟨answer, world⟩
      have hworld : (s.world.ask prober target).2 = world := congrArg Prod.snd hask
      rw [hask] at h hans
      rw [← hans]
      cases answer with
      | reading reading notices =>
        injection h with h
        subst h
        simp only [State.put, hset]
        rw [← hworld]
        exact .ask hws hc hans.symm
      | death =>
        injection h with h
        subst h
        simp only [State.put, hset]
        rw [← hworld]
        exact .die hws hc hans.symm
  case h_3 outcome hw =>
    obtain ⟨before, after, hws, hset⟩ := set_eq_append hw
    simp only [hw]
    split at h
    case isTrue he =>
      injection h with h
      subst h
      simp only [State.put, hset, he, if_true]
      exact .discard hws he
    case isFalse he =>
      split at h
      case isTrue hr =>
        injection h with h
        subst h
        simp only [State.put, hset, he]
        exact .deliver hws (Bool.not_eq_true _ ▸ he) hr
      case isFalse => exact absurd h (by simp)
  case h_4 => exact absurd h (by simp)

/-- **A step is one of the moves.** -/
theorem step_move {thread : Thread} (h : s.step prober size thread = some s') :
    Move prober size s (s.events prober size thread) s' := by
  unfold State.step at h
  obtain ⟨moved, hm, rfl⟩ := Option.map_eq_some_iff.mp h
  cases thread with
  | main => exact stepMain_move hm
  | worker i => exact stepWorker_move hm

end Pass

end PodMesh
