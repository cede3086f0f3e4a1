import PodMesh.Proofs.Pass.Conservation
import PodMesh.Proofs.Pass.Jobs
import PodMesh.Rehearsal

/-!
# A pass always ends

Two things keep a pass going. The weight of a state falls with every step, so no run is
longer than the weight it starts with (`weight_step`). And while the main thread has not
ended some thread can move (`exists_step`): both queues have room for every job, so whoever
sends never waits, and whoever waits for a queue waits for a thread that can move.

So a run that cannot go on has ended, with every worker gone, and the pass of any schedule
comes to an end (`pass_ends`).
-/

namespace PodMesh.Pass

variable {σ : Type} {prober : Prober σ} {size : Nat} {s s' : State σ}

/-! ## The weight falls -/

/-- The weight of a row of workers, taken apart at one of them. -/
theorem weights_append (before after : List Worker) (w : Worker) :
    ((before ++ w :: after).map Worker.weight).foldr (· + ·) 0 =
      w.weight + ((before ++ after).map Worker.weight).foldr (· + ·) 0 := by
  induction before with
  | nil => rfl
  | cons b before ih =>
    simp only [List.cons_append, List.map_cons, List.foldr_cons, ih]
    omega

/-- **Every move makes the state lighter.** -/
theorem weight_move {new : List Event} (h : Move prober size s new s') : s'.weight < s.weight := by
  cases h with
  | send hm hu _ _ => simp [State.weight, hm, hu, Main.weight]; omega
  | giveUp hm _ _ | close hm _ | complete hm | fallShort hm _ _ _ | join hm _ =>
      simp [State.weight, hm, Main.weight]
  | enter hm _ hr _ => simp [State.weight, hm, hr, Main.weight]
  | refuse hm _ hr _ => simp [State.weight, hm, hr, Main.weight]; omega
  | take hws hq =>
      simp only [State.weight, hws, hq, weights_append, Worker.weight, List.length_cons]
      omega
  | leave hws _ _ | settle hws _ | ask hws _ _ | die hws _ _ | discard hws _ =>
      simp only [State.weight, hws, weights_append, Worker.weight]
      omega
  | deliver hws _ _ =>
      simp only [State.weight, hws, weights_append, Worker.weight, List.length_append,
        List.length_cons, List.length_nil]
      omega

theorem weight_step {thread : Thread} (h : s.step prober size thread = some s') :
    s'.weight < s.weight :=
  weight_move (step_move h)

/-- A move takes one tick. -/
theorem clock_move {new : List Event} (h : Move prober size s new s') :
    s'.world.clock = s.world.clock + 1 := by
  cases h <;> rfl

/-- **A run is no longer than the weight of the state it starts in.** -/
theorem clock_run {first : State σ} {es : List Event} (h : Run prober size first es s) :
    s.world.clock + s.weight ≤ first.world.clock + first.weight := by
  induction h with
  | start => exact Nat.le_refl _
  | step _ hs ih =>
    have hw := weight_step hs
    have hc := clock_move (step_move hs)
    omega

/-! ## There is room in the queues -/

section Room

variable {js : List Job} {crew : Nat} {es : List Event}

theorem queue_le (h : Conserved js crew es s) : s.queue.length ≤ js.length := by
  have := jobs_length h
  omega

theorem results_le (h : Conserved js crew es s) : s.results.length ≤ js.length := by
  have := jobs_length h
  have := outcomes_length h
  omega

/-- A job that is yet to be sent finds room in the queue. -/
theorem queue_lt {job : Job} {rest : List Job} (h : Conserved js crew es s)
    (hu : s.unsent = job :: rest) : s.queue.length < max 1 js.length := by
  have := jobs_length h
  rw [hu, List.length_cons] at this
  omega

/-- An outcome that is yet to be delivered finds room in the second queue. -/
theorem results_lt {i : Nat} {outcome : Outcome} (h : Conserved js crew es s)
    (hi : s.workers[i]? = some (.carrying outcome)) : s.results.length < max 1 js.length := by
  have hmem : outcome ∈ s.carried :=
    List.mem_filterMap.mpr ⟨_, List.mem_of_getElem? hi, rfl⟩
  have := List.length_pos_of_mem hmem
  have := jobs_length h
  have := outcomes_length h
  omega

/-! ## Somebody can move -/

/-- Sending a job never waits: it succeeds, or finds nobody left to send to. -/
theorem sending_moves (h : Conserved js crew es s) (hm : s.main = .sending) :
    (s.stepMain js.length).isSome = true := by
  simp only [State.stepMain, hm]
  cases hu : s.unsent with
  | nil => rfl
  | cons job rest =>
    dsimp only
    split
    · rfl
    · rw [if_pos (queue_lt h hu)]
      rfl

/-- Delivering an outcome never waits: it succeeds, or finds nobody left to take it. -/
theorem carrying_moves {i : Nat} {outcome : Outcome} (h : Conserved js crew es s)
    (hi : s.workers[i]? = some (.carrying outcome)) :
    (s.stepWorker prober js.length i).isSome = true := by
  simp only [State.stepWorker, hi]
  split
  · rfl
  · rw [if_pos (results_lt h hi)]
    rfl

/-- Once no more jobs are to come, every worker that is still there can move. -/
theorem worker_moves {i : Nat} {w : Worker} (h : Conserved js crew es s)
    (hc : s.closed = true) (hi : s.workers[i]? = some w) (hw : w.stopped = false) :
    (s.stepWorker prober js.length i).isSome = true := by
  cases w with
  | idle =>
    simp only [State.stepWorker, hi]
    cases s.queue with
    | nil => simp [hc]
    | cons job rest => rfl
  | holding job =>
    simp only [State.stepWorker, hi]
    cases job.call with
    | skip => rfl
    | hopeless error => rfl
    | ask target =>
      dsimp only
      split <;> rfl
  | carrying outcome => exact carrying_moves h hi
  | gone => exact absurd hw (by simp [Worker.stopped])
  | lost => exact absurd hw (by simp [Worker.stopped])

/-- Once every worker has stopped the main thread can move until it ends. -/
theorem main_moves (h : Conserved js crew es s) (hd : s.deserted = true)
    (he : s.isEnded = false) : (s.stepMain js.length).isSome = true := by
  cases hm : s.main with
  | sending => exact sending_moves h hm
  | receiving count =>
    simp only [State.stepMain, hm]
    split
    · rfl
    · cases s.results with
      | nil => rfl
      | cons outcome rest =>
        dsimp only
        split <;> rfl
  | joining => simp [State.stepMain, hm, hd]
  | ended result => simp [State.isEnded, hm] at he

/-- A worker that is still there, if not all have stopped. -/
theorem exists_not_stopped (hd : s.deserted = false) :
    ∃ (i : Nat) (w : Worker), s.workers[i]? = some w ∧ w.stopped = false := by
  have hall : ¬ ∀ w : Worker, w ∈ s.workers → w.stopped = true := by
    intro h
    rw [State.deserted, List.all_eq_true.mpr h] at hd
    exact absurd hd (by simp)
  simp only [Classical.not_forall, Bool.not_eq_true] at hall
  obtain ⟨w, hw, hs⟩ := hall
  obtain ⟨i, hi⟩ := List.getElem?_of_mem hw
  exact ⟨i, w, hi, hs⟩

theorem step_isSome_main (h : (s.stepMain size).isSome = true) :
    (s.step prober size .main).isSome = true := by
  simpa [State.step] using h

theorem step_isSome_worker {i : Nat} (h : (s.stepWorker prober size i).isSome = true) :
    (s.step prober size (.worker i)).isSome = true := by
  simpa [State.step] using h

theorem mem_threads {i : Nat} {w : Worker} (hi : s.workers[i]? = some w) :
    .worker i ∈ s.threads := by
  obtain ⟨hlt, _⟩ := List.getElem?_eq_some_iff.mp hi
  simp [State.threads, hlt]

/-- **While the main thread has not ended, some thread can move.** -/
theorem exists_step (prober : Prober σ) (h : Conserved js crew es s) (he : s.isEnded = false) :
    ∃ thread ∈ s.threads, (s.step prober js.length thread).isSome = true := by
  -- once all is sent the main thread may wait, but then for a worker that can move
  by_cases hm : s.main = .sending
  · exact ⟨.main, by simp [State.threads], step_isSome_main (sending_moves h hm)⟩
  · have hc : s.closed = true := by
      unfold State.closed
      split
      · exact absurd ‹_› hm
      · rfl
    cases hd : s.deserted with
    | true => exact ⟨.main, by simp [State.threads], step_isSome_main (main_moves h hd he)⟩
    | false =>
      obtain ⟨i, w, hi, hw⟩ := exists_not_stopped hd
      exact ⟨.worker i, mem_threads hi, step_isSome_worker (worker_moves h hc hi hw)⟩

/-- After the main thread has ended, every worker that is still there can move. -/
theorem worker_moves_of_ended (prober : Prober σ) {i : Nat} {w : Worker}
    (h : Conserved js crew es s) (he : s.isEnded = true) (hi : s.workers[i]? = some w)
    (hw : w.stopped = false) :
    (s.stepWorker prober js.length i).isSome = true := by
  refine worker_moves h ?_ hi hw
  cases hm : s.main <;> simp [State.isEnded, State.closed, hm] at he ⊢

/-- **A run that cannot go on has ended, and every worker has stopped.** -/
theorem ended_of_stuck (h : Conserved js crew es s)
    (hn : ∀ thread, s.step prober js.length thread = none) :
    s.isEnded = true ∧ s.deserted = true := by
  have he : s.isEnded = true := by
    cases he : s.isEnded with
    | true => rfl
    | false =>
      obtain ⟨thread, _, ht⟩ := exists_step prober h he
      rw [hn thread] at ht
      exact absurd ht (by simp)
  refine ⟨he, ?_⟩
  cases hd : s.deserted with
  | true => rfl
  | false =>
    obtain ⟨i, w, hi, hw⟩ := exists_not_stopped hd
    have ht := step_isSome_worker (worker_moves_of_ended prober h he hi hw)
    rw [hn] at ht
    exact absurd ht (by simp)

/-! ## Schedules -/

/-- What a schedule does is a step of some thread. -/
theorem next_step {pool : Pool σ} (h : s.next pool size = some s') :
    ∃ thread, s.step pool.prober size thread = some s' := by
  unfold State.next at h
  cases hs : s.step pool.prober size (pool.schedule s.world.clock) with
  | some s₁ =>
    rw [hs] at h
    exact ⟨_, hs.trans h⟩
  | none =>
    rw [hs] at h
    obtain ⟨thread, _, ht⟩ := List.exists_of_findSome?_eq_some h
    exact ⟨thread, ht⟩

/-- A schedule goes on as long as some thread can. -/
theorem exists_next (pool : Pool σ) (h : Conserved js crew es s) (he : s.isEnded = false) :
    ∃ s', s.next pool js.length = some s' := by
  unfold State.next
  cases hs : s.step pool.prober js.length (pool.schedule s.world.clock) with
  | some s₁ => exact ⟨s₁, rfl⟩
  | none =>
    obtain ⟨thread, hmem, ht⟩ := exists_step pool.prober h he
    have hsome : (s.threads.findSome? (s.step pool.prober js.length)).isSome = true :=
      List.findSome?_isSome_iff.mpr ⟨thread, hmem, ht⟩
    exact Option.isSome_iff_exists.mp hsome

/-- A state of no weight has ended. -/
theorem isEnded_of_weight_eq_zero (h : s.weight = 0) : s.isEnded = true := by
  have hm : s.main.weight = 0 := by
    unfold State.weight at h
    omega
  cases hs : s.main <;> simp [hs, Main.weight, State.isEnded] at hm ⊢

end Room

/-- A run that has ended stays where it is. -/
theorem run_of_isEnded (pool : Pool σ) (he : s.isEnded = true) :
    ∀ steps, s.run pool size steps = s
  | 0 => rfl
  | steps + 1 => by
      unfold State.run
      cases hm : s.main <;> simp [State.isEnded, hm] at he ⊢

/-- Until then a run goes on by what its schedule does next. -/
theorem run_succ {pool : Pool σ} (he : s.isEnded = false) (hs : s.next pool size = some s')
    (steps : Nat) : s.run pool size (steps + 1) = s'.run pool size steps := by
  rw [State.run]
  cases hm : s.main <;> simp [State.isEnded, hm] at he <;> simp [hs]

/-- **Every schedule leads a run to its end, in no more steps than the weight allows.** -/
theorem run_ends {pool : Pool σ} {js : List Job} {matrix : Matrix} {world : World σ} :
    ∀ (steps : Nat) {s : State σ} {es : List Event},
      Run pool.prober js.length (start pool js matrix world) es s → s.weight ≤ steps →
      ∃ es', Run pool.prober js.length (start pool js matrix world) es'
        (s.run pool js.length steps) ∧ (s.run pool js.length steps).isEnded = true
  | 0, s, es, hr, hw =>
      ⟨es, hr, isEnded_of_weight_eq_zero (Nat.le_zero.mp hw)⟩
  | steps + 1, s, es, hr, hw => by
      -- each step is paid for by the weight it takes off
      cases he : s.isEnded with
      | true =>
        rw [run_of_isEnded pool he]
        exact ⟨es, hr, he⟩
      | false =>
        obtain ⟨s', hs'⟩ := exists_next pool (conserved_run hr) he
        obtain ⟨thread, ht⟩ := next_step hs'
        have hlight := weight_step ht
        rw [run_succ he hs']
        exact run_ends steps (hr.step ht) (by omega)

/-- **A pass under its schedule is one of the ways in which the pass can end.** -/
theorem pass_ends (pool : Pool σ) {cluster : Cluster} (plan : Plan) {matrix : Matrix}
    (world : World σ) (h : cluster.ids = matrix.pods) :
    ∃ events, Ends pool cluster plan matrix world events
      (pool.pass cluster plan matrix world) := by
  have hstart : Run pool.prober (jobs cluster plan).length
      (start pool (jobs cluster plan) matrix world) []
      (start pool (jobs cluster plan) matrix world) := .start
  obtain ⟨events, hr, he⟩ := run_ends _ hstart (Nat.le_refl _)
  have hpass : pool.pass cluster plan matrix world =
      ⟨State.result (jobs cluster plan).length _, _, _⟩ := if_pos h
  rw [hpass]
  refine ⟨events, _, hr, ?_, rfl, rfl⟩
  generalize State.run pool _ _ _ = last at he
  cases hm : last.main with
  | ended result => simp [State.result, hm]
  | sending | receiving _ | joining => simp [State.isEnded, hm] at he

/-! ## The whole statement -/

/-- What keeps a pass going, at one moment of it. -/
structure Live (prober : Prober σ) (size : Nat) (s : State σ) : Prop where
  /-- The queue holds no more than a job for each pair. -/
  queue_le : s.queue.length ≤ size
  /-- The second queue holds no more than an outcome for each pair. -/
  results_le : s.results.length ≤ size
  /-- The main thread never waits to send. -/
  sending_moves : s.main = .sending → (s.stepMain size).isSome = true
  /-- A worker never waits to deliver. -/
  carrying_moves : ∀ i outcome, s.workers[i]? = some (.carrying outcome) →
    (s.stepWorker prober size i).isSome = true
  /-- Until the main thread has ended, it or a worker can move. -/
  exists_step : s.isEnded = false →
    ∃ thread ∈ s.threads, (s.step prober size thread).isSome = true
  /-- After the main thread has ended, no worker waits. -/
  worker_moves : s.isEnded = true → ∀ i w, s.workers[i]? = some w → w.stopped = false →
    (s.stepWorker prober size i).isSome = true
  /-- A moment at which nothing can move is the end, for the main thread and all workers. -/
  stuck : (∀ thread, s.step prober size thread = none) → s.isEnded = true ∧ s.deserted = true
  /-- Every step makes less of what is left to be done. -/
  weight_lt : ∀ thread s', s.step prober size thread = some s' → s'.weight < s.weight

theorem live_run {pool : Pool σ} {js : List Job} {matrix : Matrix} {world : World σ}
    {es : List Event} (h : Run prober js.length (start pool js matrix world) es s) :
    Live prober js.length s :=
  have hc := conserved_run h
  { queue_le := queue_le hc
    results_le := results_le hc
    sending_moves := sending_moves hc
    carrying_moves := fun _ _ => carrying_moves hc
    exists_step := exists_step prober hc
    worker_moves := fun he _ _ => worker_moves_of_ended prober hc he
    stuck := ended_of_stuck hc
    weight_lt := fun _ _ => weight_step }

/--
**A pass never blocks and always ends.**

Whatever the prober does and whichever threads move, at every moment of a pass over `n` pods
both queues have room, somebody can move until the main thread has ended, and nobody is left
behind afterwards. No run has more steps than the weight it starts with, and so the pass of
any schedule comes to its result.
-/
theorem pass_never_blocks (prober : Prober σ) (workers : Option Nat) {cluster : Cluster}
    (plan : Plan) {matrix : Matrix} (world : World σ) (h : cluster.ids = matrix.pods) :
    let pool := Pool.make prober workers
    let size := cluster.pods.length * cluster.pods.length
    let first := start pool (jobs cluster plan) matrix world
    (∀ events s, Run prober size first events s →
      Live prober size s ∧ s.world.clock + s.weight ≤ world.clock + first.weight) ∧
    ∀ schedule, ∃ events, Ends pool cluster plan matrix world events
      ((pool.under schedule).pass cluster plan matrix world) := by
  intro pool size first
  have hsize : size = (jobs cluster plan).length := (length_jobs cluster plan).symm
  refine ⟨fun events s hr => ?_, fun schedule => ?_⟩
  · rw [hsize] at hr ⊢
    exact ⟨live_run hr, clock_run hr⟩
  · exact pass_ends (pool.under schedule) plan world h

/-- A world in which the first question kills who asks it, and no other does. -/
def fatalOnce : World (List Rehearsal.Rule) := { memory := [{ times := some 1, dies := true }] }

/-- One of two workers is lost, and the pass goes on. -/
theorem pass_never_blocks_on_two_pods :
    (∀ events s, Run Rehearsal.prober 4
      (start (Pool.make Rehearsal.prober (some 2)) (jobs twoPods {}) twoPodsMatrix fatalOnce)
      events s → Live Rehearsal.prober 4 s) ∧
    ∃ events, Ends (Pool.make Rehearsal.prober (some 2)) twoPods {} twoPodsMatrix fatalOnce events
      ((Pool.make Rehearsal.prober (some 2)).pass twoPods {} twoPodsMatrix fatalOnce) := by
  have hids : twoPods.ids = twoPodsMatrix.pods := rfl
  have h := pass_never_blocks Rehearsal.prober (some 2) {} fatalOnce hids
  exact ⟨fun events s hr => (h.1 events s hr).1, h.2 fun _ => .main⟩

end PodMesh.Pass
