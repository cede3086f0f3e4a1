import PodMesh.Proofs.Pass.Run

/-!
# Nothing is lost but with its worker

At every moment of a run each job is in exactly one place: not yet sent, in the queue, with a
worker, settled, or lost together with a worker. Each outcome that was produced is with its
worker, in the second queue, recorded, or dropped. Both are kept by every move, whatever
the matrix and the prober do (`conserved_run`).
-/

namespace PodMesh.Pass

variable {σ : Type}

section Histories

variable (es es' : List Event)

@[simp] theorem calls_append : calls (es ++ es') = calls es ++ calls es' :=
  List.filterMap_append

@[simp] theorem losses_append : losses (es ++ es') = losses es ++ losses es' :=
  List.filterMap_append

@[simp] theorem produced_append : produced (es ++ es') = produced es ++ produced es' :=
  List.filterMap_append

@[simp] theorem recorded_append : recorded (es ++ es') = recorded es ++ recorded es' :=
  List.filterMap_append

@[simp] theorem wasted_append : wasted (es ++ es') = wasted es ++ wasted es' :=
  List.filterMap_append

end Histories

/-- The jobs that workers are done with: lost or settled. -/
def done (events : List Event) : List Job := losses events ++ (produced events).map Outcome.job

/-- The job that a worker is at. -/
def Worker.job? : Worker → Option Job
  | .holding job => some job
  | _ => none

/-- The outcome that a worker has not delivered yet. -/
def Worker.outcome? : Worker → Option Outcome
  | .carrying outcome => some outcome
  | _ => none

/-- The jobs that workers are at. -/
def State.held (s : State σ) : List Job := s.workers.filterMap Worker.job?

/-- The outcomes that workers have not delivered yet. -/
def State.carried (s : State σ) : List Outcome := s.workers.filterMap Worker.outcome?

/-- Every job and every outcome is in one place. -/
structure Conserved (jobs : List Job) (crew : Nat) (events : List Event) (s : State σ) : Prop where
  /-- A job is unsent, queued, held, lost or settled. -/
  jobs : (s.unsent ++ s.queue ++ s.held ++ losses events ++
    (produced events).map Outcome.job).Perm jobs
  /-- An outcome is carried, delivered, recorded or dropped. -/
  outcomes : (s.carried ++ s.results ++ recorded events ++ wasted events).Perm (produced events)
  /-- No worker joins or vanishes. -/
  crew : s.workers.length = crew
  /-- One job was lost for each lost worker. -/
  lost : s.workers.count .lost = (losses events).length

theorem conserved_start (pool : Pool σ) (jobs : List Job) (matrix : Matrix) (world : World σ) :
    Conserved jobs pool.workers [] (start pool jobs matrix world) where
  jobs := by
    have hheld : (start pool jobs matrix world).held = [] := by
      simp [State.held, start, Worker.job?]
    rw [hheld]
    simp [start, losses, produced]
  outcomes := by
    have hcarried : (start pool jobs matrix world).carried = [] := by
      simp [State.carried, start, Worker.outcome?]
    rw [hcarried]
    simp [start, recorded, wasted, produced]
  crew := by simp [start]
  lost := by simp [start, losses, List.count_replicate]

variable {prober : Prober σ} {size : Nat} {s s' : State σ} {js : List Job} {crew : Nat}
  {es new : List Event}

/-- A move takes a job from one place to the next. -/
theorem jobs_move (h : Conserved js crew es s) (hm : Move prober size s new s') :
    (s'.unsent ++ s'.queue ++ s'.held ++ losses (es ++ new) ++
      (produced (es ++ new)).map Outcome.job).Perm js := by
  -- a move shifts one job between two of the lists, so it is enough to count
  refine List.perm_iff_count.mpr fun job => ?_
  have hc := h.jobs.count_eq job
  cases hm with
  | send _ hu _ _ =>
      simp [State.held, hu, List.count_cons] at hc ⊢
      omega
  | take hws hq =>
      simp [State.held, hws, hq, Worker.job?, List.filterMap_cons, List.count_cons] at hc ⊢
      omega
  | settle hws ho =>
      simp [State.held, hws, Worker.job?, losses, produced, Event.lost?, Event.settled?,
        ho.job_eq, List.filterMap_cons, List.count_cons] at hc ⊢
      omega
  | ask hws _ _ =>
      simp [State.held, hws, Worker.job?, losses, produced, Event.lost?, Event.settled?,
        Job.judged, List.filterMap_cons, List.count_cons] at hc ⊢
      omega
  | die hws _ _ =>
      simp [State.held, hws, Worker.job?, losses, produced, Event.lost?, Event.settled?,
        List.filterMap_cons, List.count_cons] at hc ⊢
      omega
  | leave hws _ _ | deliver hws _ _ =>
      simpa [State.held, hws, Worker.job?, List.filterMap_cons] using hc
  | discard hws _ =>
      simpa [State.held, hws, Worker.job?, losses, produced, Event.lost?,
        Event.settled?, List.filterMap_cons] using hc
  | enter _ _ _ _ | refuse _ _ _ _ =>
      simpa [State.held, losses, produced, Event.lost?, Event.settled?,
        List.filterMap_cons] using hc
  | giveUp _ _ _ | close _ _ | complete _ | fallShort _ _ _ _ | join _ _ =>
      simpa [State.held] using hc

/-- A move takes an outcome from one place to the next. -/
theorem outcomes_move (h : Conserved js crew es s) (hm : Move prober size s new s') :
    (s'.carried ++ s'.results ++ recorded (es ++ new) ++ wasted (es ++ new)).Perm
      (produced (es ++ new)) := by
  refine List.perm_iff_count.mpr fun outcome => ?_
  have hc := h.outcomes.count_eq outcome
  cases hm with
  | enter _ _ hr _ | refuse _ _ hr _ =>
      simp [State.carried, hr, recorded, wasted, produced, Event.entered?, Event.dropped?,
        Event.settled?, List.filterMap_cons, List.count_cons] at hc ⊢
      omega
  | settle hws _ | ask hws _ _ =>
      simp [State.carried, hws, Worker.outcome?, recorded, wasted, produced, Event.entered?,
        Event.dropped?, Event.settled?,
        List.filterMap_cons, List.count_cons] at hc ⊢
      omega
  | die hws _ _ =>
      simpa [State.carried, hws, Worker.outcome?, recorded, wasted, produced, Event.entered?,
        Event.dropped?, Event.settled?, List.filterMap_cons] using hc
  | discard hws _ =>
      simp [State.carried, hws, Worker.outcome?, recorded, wasted, produced, Event.entered?,
        Event.dropped?, Event.settled?,
        List.filterMap_cons, List.count_cons] at hc ⊢
      omega
  | deliver hws _ _ =>
      simp [State.carried, hws, Worker.outcome?, List.filterMap_cons, List.count_cons] at hc ⊢
      omega
  | take hws _ | leave hws _ _ =>
      simpa [State.carried, hws, Worker.outcome?, List.filterMap_cons] using hc
  | send _ _ _ _ | giveUp _ _ _ | close _ _ | complete _ | fallShort _ _ _ _ | join _ _ =>
      simpa [State.carried] using hc

/-- A worker that stops keeps its place, and one that dies takes a job with it. -/
theorem crew_move (h : Conserved js crew es s) (hm : Move prober size s new s') :
    s'.workers.length = crew ∧ s'.workers.count .lost = (losses (es ++ new)).length := by
  have hc := h.crew
  have hl := h.lost
  cases hm with
  | take hws _ | leave hws _ _ | deliver hws _ _ =>
      simp [hws] at hc hl ⊢
      omega
  | settle hws _ | ask hws _ _ | die hws _ _ | discard hws _ =>
      simp [hws, losses, Event.lost?, List.filterMap_cons] at hc hl ⊢
      omega
  | enter _ _ _ _ | refuse _ _ _ _ =>
      simp [losses, Event.lost?, List.filterMap_cons] at hl ⊢
      exact ⟨hc, hl⟩
  | send _ _ _ _ | giveUp _ _ _ | close _ _ | complete _ | fallShort _ _ _ _ | join _ _ =>
      rw [List.append_nil]
      exact ⟨hc, hl⟩

/-- **Every move conserves jobs and outcomes.** -/
theorem conserved_move (h : Conserved js crew es s) (hm : Move prober size s new s') :
    Conserved js crew (es ++ new) s' :=
  ⟨jobs_move h hm, outcomes_move h hm, (crew_move h hm).1, (crew_move h hm).2⟩

/-- **Every run conserves jobs and outcomes.** -/
theorem conserved_run {pool : Pool σ} {matrix : Matrix} {world : World σ}
    (h : Run prober size (start pool js matrix world) es s) :
    Conserved js pool.workers es s := by
  induction h with
  | start => exact conserved_start pool js matrix world
  | step _ hs ih => exact conserved_move ih (step_move hs)

/-- No job comes from nowhere. -/
theorem mem_of_done {job : Job} (h : Conserved js crew es s) (hj : job ∈ done es) : job ∈ js := by
  refine h.jobs.mem_iff.mp ?_
  rw [List.append_assoc]
  exact List.mem_append_right _ hj

/-! ## Counting -/

theorem jobs_length (h : Conserved js crew es s) :
    s.unsent.length + s.queue.length + s.held.length + (losses es).length +
      (produced es).length = js.length := by
  have := h.jobs.length_eq
  simp only [List.length_append, List.length_map] at this
  exact this

theorem outcomes_length (h : Conserved js crew es s) :
    s.carried.length + s.results.length + (recorded es).length + (wasted es).length =
      (produced es).length := by
  have := h.outcomes.length_eq
  simp only [List.length_append] at this
  exact this

/-- As many recorded outcomes as jobs leave nothing anywhere else. -/
theorem Conserved.complete (h : Conserved js crew es s)
    (hcount : (recorded es).length = js.length) :
    losses es = [] ∧ (done es).Perm js ∧ (recorded es).Perm (produced es) := by
  have hjl := jobs_length h
  have hol := outcomes_length h
  have hjobs := h.jobs
  have hout := h.outcomes
  have hunsent : s.unsent = [] := List.eq_nil_of_length_eq_zero (by omega)
  have hqueue : s.queue = [] := List.eq_nil_of_length_eq_zero (by omega)
  have hheld : s.held = [] := List.eq_nil_of_length_eq_zero (by omega)
  have hlost : losses es = [] := List.eq_nil_of_length_eq_zero (by omega)
  have hcarried : s.carried = [] := List.eq_nil_of_length_eq_zero (by omega)
  have hresults : s.results = [] := List.eq_nil_of_length_eq_zero (by omega)
  have hwasted : wasted es = [] := List.eq_nil_of_length_eq_zero (by omega)
  rw [hunsent, hqueue, hheld] at hjobs
  rw [hcarried, hresults, hwasted, List.append_nil] at hout
  exact ⟨hlost, hjobs, hout⟩

end PodMesh.Pass
