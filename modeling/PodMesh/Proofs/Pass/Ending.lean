import PodMesh.Proofs.Pass.Conservation
import PodMesh.Proofs.Recording

/-!
# How a pass ends

Over a sound matrix nothing that is delivered is ever refused, so the observations are the
recorded outcomes and nothing else (`Kept`). How far the main thread is tells how many
outcomes are recorded and what the workers can still be doing (`Stage`). The two are kept
together (`invariants_run`) and leave three ways to end, which the number of lost workers
tells apart (`ended_cases`): none lost, some lost, or all lost before every job was sent.
-/

namespace PodMesh.Pass

variable {σ : Type} {prober : Prober σ} {size : Nat} {s s' : State σ} {es new : List Event}
  {js : List Job} {crew : Nat} {m : Matrix}

/-! ## Where outcomes come from -/

theorem mem_of_produced (h : Conserved js crew es s) {o : Outcome} (ho : o ∈ produced es) :
    o.job ∈ js :=
  h.jobs.mem_iff.mp (List.mem_append_right _ (List.mem_map_of_mem ho))

theorem mem_produced_of_delivered (h : Conserved js crew es s) {o : Outcome}
    (ho : o ∈ s.results) : o ∈ produced es := by
  refine h.outcomes.mem_iff.mp ?_
  simp [ho]

/-- Where jobs have different keys, no pair is both lost and settled, or settled twice. -/
theorem settled_keys_nodup (h : Conserved js crew es s) (hk : (js.map Job.keys).Nodup) :
    ((losses es).map Job.keys ++ (produced es).map (·.job.keys)).Nodup := by
  have hn := (h.jobs.map Job.keys).nodup_iff.mpr hk
  simp only [List.map_append, List.map_map, List.append_assoc] at hn
  have hn := (List.nodup_append.mp hn).2.1
  have hn := (List.nodup_append.mp hn).2.1
  exact (List.nodup_append.mp hn).2.1

/-- Outcomes on their way and recorded ones are of different pairs. -/
theorem outcome_keys_nodup (h : Conserved js crew es s) (hk : (js.map Job.keys).Nodup) :
    (s.results.map (·.job.keys) ++ (recorded es).map (·.job.keys)).Nodup := by
  have hp := (List.nodup_append.mp (settled_keys_nodup h hk)).2.1
  have hn := (h.outcomes.map (·.job.keys)).nodup_iff.mpr hp
  simp only [List.map_append, List.append_assoc] at hn
  have hn := (List.nodup_append.mp hn).2.1
  rw [← List.append_assoc] at hn
  exact (List.nodup_append.mp hn).1

/-! ## The matrix holds what was recorded -/

/-- The matrix is sound and shows the recorded outcomes. -/
structure Kept (m : Matrix) (events : List Event) (s : State σ) : Prop where
  /-- The matrix stays in order. -/
  sound : s.matrix.Sound
  /-- The observations are the recorded outcomes, and what they leave of the old ones. -/
  holds : m.Holds (recorded events) s.matrix

/-- What a delivered outcome does to the matrix. -/
theorem record_delivered (hc : Conserved js crew es s) (hkept : Kept m es s)
    (hw : ∀ job ∈ js, job.Within m) {o : Outcome} (ho : o ∈ s.results) :
    ∃ m', o.record s.matrix = .ok (m', m.remarks o) ∧ s.matrix.Entered o m' ∧ m'.Sound := by
  have hin : o.job.Within s.matrix := by
    have := hw _ (mem_of_produced hc (mem_produced_of_delivered hc ho))
    rw [Job.Within] at this ⊢
    rw [hkept.holds.pods]
    exact this
  obtain ⟨m', hrec, hent, hs⟩ := Matrix.record_eq_ok hkept.sound hin
  rw [Matrix.remarks_congr hkept.holds.expected] at hrec
  exact ⟨m', hrec, hent, hs⟩

/-- Nothing that is delivered is refused. -/
theorem record_ne_error (hc : Conserved js crew es s) (hkept : Kept m es s)
    (hw : ∀ job ∈ js, job.Within m) {o : Outcome} {rest : List Outcome} {refusal : Refusal}
    (hr : s.results = o :: rest) : o.record s.matrix ≠ .error refusal := by
  obtain ⟨m', hrec, _, _⟩ := record_delivered hc hkept hw (o := o) (by simp [hr])
  rw [hrec]
  exact nofun

theorem Kept.of_same (h : Kept m es s) (hr : recorded new = []) (hm : s'.matrix = s.matrix) :
    Kept m (es ++ new) s' := by
  refine ⟨hm ▸ h.sound, ?_⟩
  rw [recorded_append, hr, List.append_nil, hm]
  exact h.holds

/-- The main thread enters what is delivered, and nothing else touches the matrix. -/
theorem kept_move (hc : Conserved js crew es s) (hk : (js.map Job.keys).Nodup)
    (hw : ∀ job ∈ js, job.Within m) (h : Kept m es s) (hm : Move prober size s new s') :
    Kept m (es ++ new) s' := by
  cases hm with
  | @enter count o rest m₁ notices hmain hne hr hrec =>
    obtain ⟨m', hrec', hent, hs⟩ := record_delivered hc h hw (o := o) (by simp [hr])
    have hm₁ : m₁ = m' := congrArg Prod.fst (Except.ok.inj (hrec.symm.trans hrec'))
    subst hm₁
    refine ⟨hs, ?_⟩
    -- the pair is new, since no job is settled twice
    have hnew : o.job.keys ∉ (recorded es).map (·.job.keys) := by
      have hn := outcome_keys_nodup hc hk
      rw [hr, List.map_cons, List.cons_append, List.nodup_cons] at hn
      exact fun hmem => hn.1 (List.mem_append_right _ hmem)
    have hrecorded : recorded (es ++ [.entered o]) = recorded es ++ [o] := recorded_append es _
    rw [hrecorded]
    exact h.holds.snoc hent hnew
  | refuse _ _ hr hrec => exact absurd hrec (record_ne_error hc h hw hr)
  | send _ _ _ _ | giveUp _ _ _ | close _ _ | complete _ | fallShort _ _ _ _ | join _ _
  | take _ _ | leave _ _ _ | deliver _ _ _ | settle _ _ | ask _ _ _ | die _ _ _
  | discard _ _ => exact h.of_same rfl rfl

/-! ## How far the main thread is -/

/-- What is recorded and what is left at each point of the main thread. -/
def Reached (size count : Nat) (s : State σ) : Prop :=
  match s.main with
  | .sending => count = 0
  | .receiving n => s.unsent = [] ∧ count = n
  | .joining => s.unsent = [] ∧ count = size
  | .ended (.ok ()) => count = size
  | .ended (.error fault) =>
    fault = .workersGone ∧ count = 0 ∧ .gone ∉ s.workers ∨
      fault = .incomplete count size ∧ count ≠ size ∧ s.unsent = [] ∧ s.results = []

/-- How far a pass over a sound matrix is. -/
structure Stage (size : Nat) (events : List Event) (s : State σ) : Prop where
  /-- No outcome is produced in vain. -/
  wasted : wasted events = []
  /-- A worker leaves only when all jobs are sent and taken. -/
  gone : .gone ∈ s.workers → s.closed = true ∧ s.queue = []
  /-- The main thread ends only when every worker has stopped. -/
  ended : s.isEnded = true → s.deserted = true
  /-- The main thread and the recorded outcomes go together. -/
  reached : Reached size (recorded events).length s

theorem stage_start (pool : Pool σ) (size : Nat) (js : List Job) (m : Matrix) (world : World σ) :
    Stage size [] (start pool js m world) where
  wasted := rfl
  gone := by simp [start]
  ended := by simp [start, State.isEnded]
  reached := rfl

/-- A worker that can move keeps the main thread from having ended. -/
theorem Stage.not_ended (h : Stage size es s) {before after : List Worker} {w : Worker}
    (hws : s.workers = before ++ w :: after) (hw : w.stopped = false) : s.isEnded = false := by
  cases he : s.isEnded with
  | false => rfl
  | true =>
    have hd := h.ended he
    rw [State.deserted, hws, List.all_append, List.all_cons, hw] at hd
    simp at hd

/-- Before the end, workers have no part in what the main thread has reached. -/
theorem reached_of_not_ended {count : Nat} (he : s.isEnded = false) (hm : s'.main = s.main)
    (hu : s'.unsent = s.unsent) (h : Reached size count s) : Reached size count s' := by
  unfold Reached at h ⊢
  rw [hm, hu]
  cases hs : s.main with
  | ended result => simp [State.isEnded, hs] at he
  | sending | receiving _ | joining => rw [hs] at h; exact h

/-- What a worker's move keeps, as long as it gives up its place only when it may. -/
theorem stage_worker {before after : List Worker} {w w' : Worker} (h : Stage size es s)
    (hws : s.workers = before ++ w :: after) (hw : w.stopped = false)
    (hws' : s'.workers = before ++ w' :: after) (hm : s'.main = s.main)
    (hu : s'.unsent = s.unsent) (hr : recorded new = []) (hwaste : wasted new = [])
    (hgone : w' = .gone ∨ .gone ∈ s.workers → s.closed = true ∧ s'.queue = []) :
    Stage size (es ++ new) s' := by
  -- the worker could still move, so the main thread has not ended and stays where it is
  have he := h.not_ended hws hw
  refine ⟨?_, ?_, ?_, ?_⟩
  · rw [wasted_append, h.wasted, hwaste]
    rfl
  · intro hmem
    have hclosed : s'.closed = s.closed := by rw [State.closed, State.closed, hm]
    rw [hclosed]
    refine hgone ?_
    rw [hws'] at hmem
    rw [hws]
    simp only [List.mem_append, List.mem_cons] at hmem ⊢
    rcases hmem with hmem | hmem | hmem
    · exact .inr (.inl hmem)
    · exact .inl hmem.symm
    · exact .inr (.inr (.inr hmem))
  · intro he'
    have hended : s'.isEnded = s.isEnded := by rw [State.isEnded, State.isEnded, hm]
    rw [hended, he] at he'
    exact absurd he' (by simp)
  · rw [recorded_append, hr, List.append_nil]
    exact reached_of_not_ended he hm hu h.reached

/-- No worker leaves while jobs are still being sent. -/
theorem Stage.not_gone (h : Stage size es s) (hm : s.main = .sending) : .gone ∉ s.workers := by
  intro hg
  have hclosed := (h.gone hg).1
  rw [State.closed, hm] at hclosed
  exact absurd hclosed (by simp)

/-- What a move of the main thread keeps once every job is sent. -/
theorem stage_main (h : Stage size es s) (hws : s'.workers = s.workers)
    (hq : s'.queue = s.queue) (hcl : s'.closed = true) (hwaste : wasted new = [])
    (he : s'.isEnded = true → s.deserted = true)
    (hr : Reached size (recorded (es ++ new)).length s') : Stage size (es ++ new) s' := by
  refine ⟨?_, fun hg => ⟨hcl, ?_⟩, fun he' => ?_, hr⟩
  · rw [wasted_append, h.wasted, hwaste]
    rfl
  · rw [hq]
    exact (h.gone (hws ▸ hg)).2
  · rw [State.deserted, hws]
    exact he he'

/-- **Every move of a pass over a sound matrix takes it from one stage to the next.** -/
theorem stage_move (hc : Conserved js crew es s) (hkept : Kept m es s)
    (hw : ∀ job ∈ js, job.Within m) (h : Stage size es s) (hm : Move prober size s new s') :
    Stage size (es ++ new) s' := by
  have hreached := h.reached
  cases hm with
  | send hmain _ _ _ =>
    rw [List.append_nil]
    refine ⟨h.wasted, fun hg => absurd hg (h.not_gone hmain), fun he => ?_, ?_⟩
    · simp [State.isEnded, hmain] at he
    · simpa [Reached, hmain] using hreached
  | giveUp hmain _ hd =>
    rw [List.append_nil]
    have hng := h.not_gone hmain
    refine ⟨h.wasted, fun hg => absurd hg hng, fun _ => hd, ?_⟩
    simp only [Reached, hmain] at hreached
    exact .inl ⟨rfl, hreached, hng⟩
  | close hmain hu =>
    refine stage_main h rfl rfl rfl rfl (fun he => Bool.noConfusion he) ?_
    simp only [Reached, hmain, List.append_nil] at hreached ⊢
    exact ⟨hu, hreached⟩
  | @enter count o rest m₁ notices hmain hne hr hrec =>
    refine stage_main h rfl rfl rfl rfl (fun he => Bool.noConfusion he) ?_
    have hrecorded : recorded (es ++ [.entered o]) = recorded es ++ [o] := recorded_append es _
    simp only [Reached, hmain] at hreached ⊢
    rw [hrecorded, List.length_append, hreached.2]
    exact ⟨hreached.1, rfl⟩
  | refuse _ _ hr hrec => exact absurd hrec (record_ne_error hc hkept hw hr)
  | complete hmain =>
    refine stage_main h rfl rfl rfl rfl (fun he => Bool.noConfusion he) ?_
    simp only [Reached, hmain, List.append_nil] at hreached ⊢
    exact hreached
  | fallShort hmain hne hr hd =>
    refine stage_main h rfl rfl rfl rfl (fun _ => hd) ?_
    simp only [Reached, hmain, List.append_nil] at hreached ⊢
    exact .inr ⟨by rw [hreached.2], hreached.2 ▸ hne, hreached.1, hr⟩
  | join hmain hd =>
    refine stage_main h rfl rfl rfl rfl (fun _ => hd) ?_
    simp only [Reached, hmain, List.append_nil] at hreached ⊢
    exact hreached.2
  | take hws hq =>
    refine stage_worker h hws rfl rfl rfl rfl rfl rfl ?_
    rintro (hg | hg)
    · exact absurd hg (by simp)
    · have := (h.gone hg).2
      rw [hq] at this
      exact absurd this (by simp)
  | leave hws hq hcl => exact stage_worker h hws rfl rfl rfl rfl rfl rfl fun _ => ⟨hcl, hq⟩
  | settle hws _ | ask hws _ _ | die hws _ _ | deliver hws _ _ =>
    refine stage_worker h hws rfl rfl rfl rfl rfl rfl ?_
    rintro (hg | hg)
    · exact absurd hg (by simp)
    · exact h.gone hg
  | discard hws he =>
    -- nobody is left to discard anything
    have := h.not_ended hws rfl
    rw [he] at this
    exact absurd this (by simp)

/-- Once there is an outcome for every job, no worker was lost. -/
theorem losses_of_joining (hc : Conserved js crew es s) (hst : Stage js.length es s)
    (hm : s.main = .joining) : losses es = [] := by
  have hreached := hst.reached
  simp only [Reached, hm] at hreached
  have := jobs_length hc
  have := outcomes_length hc
  exact List.eq_nil_of_length_eq_zero (by omega)

/-! ## Whole runs -/

/-- **Every run over a sound matrix keeps the books, the matrix and the stage.** -/
theorem invariants_run {pool : Pool σ} {world : World σ} (hs : m.Sound)
    (hk : (js.map Job.keys).Nodup) (hw : ∀ job ∈ js, job.Within m)
    (h : Run prober size (start pool js m world) es s) :
    Conserved js pool.workers es s ∧ Kept m es s ∧ Stage size es s := by
  induction h with
  | start =>
    exact ⟨conserved_start pool js m world, ⟨hs, Matrix.holds_nil m⟩,
      stage_start pool size js m world⟩
  | step _ hstep ih =>
    obtain ⟨hc, hkept, hstage⟩ := ih
    have hm := step_move hstep
    exact ⟨conserved_move hc hm, kept_move hc hk hw hkept hm, stage_move hc hkept hw hstage hm⟩

/-! ## The end -/

theorem held_of_deserted (hd : s.deserted = true) : s.held = [] := by
  rw [State.deserted, List.all_eq_true] at hd
  refine List.filterMap_eq_nil_iff.mpr fun w hw => ?_
  cases w with
  | holding job => exact absurd (hd _ hw) (by simp [Worker.stopped])
  | idle | carrying _ | gone | lost => rfl

theorem carried_of_deserted (hd : s.deserted = true) : s.carried = [] := by
  rw [State.deserted, List.all_eq_true] at hd
  refine List.filterMap_eq_nil_iff.mpr fun w hw => ?_
  cases w with
  | carrying outcome => exact absurd (hd _ hw) (by simp [Worker.stopped])
  | idle | holding _ | gone | lost => rfl

/-- If all have stopped and not all are lost, one has left. -/
theorem gone_of_deserted (hc : Conserved js crew es s) (hd : s.deserted = true)
    (hlt : (losses es).length < crew) : .gone ∈ s.workers := by
  rw [← hc.lost, ← hc.crew] at hlt
  have hall : ¬ ∀ w : Worker, w ∈ s.workers → .lost = w := fun h =>
    Nat.ne_of_lt hlt (List.count_eq_length.mpr h)
  simp only [Classical.not_forall] at hall
  obtain ⟨w, hw, hne⟩ := hall
  have hstop := List.all_eq_true.mp hd w hw
  cases w with
  | gone => exact hw
  | lost => exact absurd rfl hne
  | idle | holding _ | carrying _ => exact absurd hstop (by simp [Worker.stopped])

/-- If no worker has left, all are lost. -/
theorem all_lost (hc : Conserved js crew es s) (hd : s.deserted = true)
    (hng : .gone ∉ s.workers) : (losses es).length = crew := by
  have hle : (losses es).length ≤ crew := by
    rw [← hc.lost, ← hc.crew]
    exact List.count_le_length
  rcases Nat.lt_or_eq_of_le hle with hlt | heq
  · exact absurd (gone_of_deserted hc hd hlt) hng
  · exact heq

/-- How a pass over a sound matrix can end: with every outcome, with too few, or with none. -/
inductive Ended (js : List Job) (crew : Nat) (events : List Event) : Except Fault Unit → Prop where
  /-- No worker was lost, and there is an outcome for every job. -/
  | complete : losses events = [] → (done events).Perm js →
      (recorded events).Perm (produced events) → Ended js crew events (.ok ())
  /-- Workers were lost. The others settled what was left, if there were others. -/
  | short {left : List Job} : losses events ≠ [] → (left ++ done events).Perm js →
      (recorded events).Perm (produced events) →
      ((losses events).length < crew → left = []) →
      Ended js crew events (.error (.incomplete (recorded events).length js.length))
  /-- All workers were lost while jobs were still being sent. -/
  | abandoned : (losses events).length = crew → recorded events = [] →
      Ended js crew events (.error .workersGone)

/-- **Losses decide how a pass over a sound matrix ends.** -/
theorem ended_cases (hcrew : 0 < crew) (hc : Conserved js crew es s)
    (hst : Stage js.length es s) {result : Except Fault Unit} (hm : s.main = .ended result) :
    Ended js crew es result := by
  have hd : s.deserted = true := hst.ended (by simp [State.isEnded, hm])
  have hjobs := hc.jobs
  have hout := hc.outcomes
  have hjl := jobs_length hc
  have hol := outcomes_length hc
  rw [held_of_deserted hd, List.append_nil, List.append_assoc] at hjobs
  rw [carried_of_deserted hd, hst.wasted, List.nil_append, List.append_nil] at hout
  have hreached := hst.reached
  simp only [Reached, hm] at hreached
  match result, hreached with
  | .ok (), hcount =>
    obtain ⟨hlost, hdone, hrec⟩ := hc.complete hcount
    exact .complete hlost hdone hrec
  | .error fault, .inl ⟨hf, hcount, hng⟩ =>
    -- nobody left before all was sent, so all are lost
    subst hf
    exact .abandoned (all_lost hc hd hng) (List.eq_nil_of_length_eq_zero hcount)
  | .error fault, .inr ⟨hf, hne, hunsent, hres⟩ =>
    subst hf
    rw [hunsent] at hjobs
    rw [hres] at hout
    have hqueue : (losses es).length < crew → s.queue = [] := fun hlt =>
      (hst.gone (gone_of_deserted hc hd hlt)).2
    refine .short (fun hlost => hne ?_) hjobs hout hqueue
    -- with nothing lost a worker has left, so the queue is empty and nothing is missing
    have hq : s.queue = [] := hqueue (by rw [hlost]; exact hcrew)
    rw [hq, hunsent, hlost, List.length_nil] at hjl
    have hall := hout.length_eq
    rw [List.nil_append] at hall
    rw [held_of_deserted hd, List.length_nil] at hjl
    omega

end PodMesh.Pass
