import PodMesh.Proofs.Pass.Exactness

/-!
# A pass does not depend on its schedule

Let a prober answer by the question alone. Then what comes of a job is settled before the
pass starts (`Job.outcome`), and the recorded outcomes are those of all jobs in some order
(`recorded_perm`). The order shows nowhere: the outcomes determine the matrix in whatever
order they are entered, and what is said about one depends on no other. So two passes over
one matrix agree, with whatever workers, schedules and memories.
-/

namespace PodMesh

variable {σ : Type}

/-- Does a prober answer by the question alone, and always? -/
def Prober.AnswersBy (prober : Prober σ) (reading : Target → Reading) : Prop :=
  ∀ memory target, ∃ notices, (prober.ask memory target).1 = .reading (reading target) notices

/-- What comes of a job if questions are answered by some readings. -/
def Job.outcome (reading : Target → Reading) (job : Job) : Outcome :=
  match job.call with
  | .skip => job.skipped
  | .hopeless error => job.failed error
  | .ask target => job.judged (reading target)

theorem Prober.AnswersBy.survivable {prober : Prober σ} {reading : Target → Reading}
    (hp : prober.AnswersBy reading) : prober.Survivable := by
  intro memory target hdeath
  obtain ⟨notices, hans⟩ := hp memory target
  rw [hdeath] at hans
  exact Answer.noConfusion hans

namespace Pass

variable {cluster : Cluster} {plan : Plan} {matrix : Matrix} {world : World σ}
  {events : List Event} {after : After σ Unit} {prober : Prober σ} {reading : Target → Reading}

/-- Every answer in a series is the reading of its own question. -/
theorem reading_of_mem (hp : prober.AnswersBy reading) :
    ∀ (cs : List (Job × Target × Answer)) (memory : σ),
      cs.map (·.2.2) = prober.answers memory (cs.map (·.2.1)) →
      ∀ c ∈ cs, ∃ notices, c.2.2 = .reading (reading c.2.1) notices
  | [], _, _, _, hc => nomatch hc
  | c :: cs, memory, h, c', hc => by
      rw [List.map_cons, List.map_cons, Prober.answers] at h
      injection h with hhead htail
      rcases List.mem_cons.mp hc with rfl | hc
      · rw [hhead]
        exact hp memory c'.2.1
      · exact reading_of_mem hp cs _ htail c' hc

/-- An outcome is what comes of its job. -/
theorem outcome_of_answered (hp : prober.AnswersBy reading) {w : World σ}
    (ht : Told prober matrix world events w) {o : Outcome} (h : Answered events o) :
    o = o.job.outcome reading := by
  unfold Job.outcome
  rcases h with (⟨hcall, ho⟩ | ⟨error, hcall, ho⟩) | ⟨target, reading', notices, hq, hmem, ho⟩
  · rw [hcall]
    exact ho
  · rw [hcall]
    exact ho
  · have hans := ht.answers
    rw [targets, queries, List.map_map] at hans
    obtain ⟨notices', hr⟩ := reading_of_mem hp _ _ hans _ hmem
    injection hr with hr _
    rw [hr] at ho
    rw [Job.call_eq_ask_iff.mpr hq]
    exact ho

/-- **The recorded outcomes are what comes of the jobs, in some order.** -/
theorem recorded_perm (hp : prober.AnswersBy reading)
    (h : Exact prober cluster plan matrix world events after) :
    (recorded events).Perm ((jobs cluster plan).map (Job.outcome reading)) := by
  have hown : (recorded events).map (fun o => o.job.outcome reading) = recorded events := by
    refine (List.map_congr_left fun o ho => ?_).trans (List.map_id _)
    exact (outcome_of_answered hp h.told (h.answered o ho)).symm
  have hrecorded := (h.recorded_produced.map Outcome.job).trans h.produced_jobs
  have hjobs := hrecorded.map (Job.outcome reading)
  rw [List.map_map] at hjobs
  exact hown ▸ hjobs

/-- Two passes agree: in how they ended, in what they observed, and, but for the order, in what
was asked and said. -/
structure Agree (world₁ : World σ) (after₁ : After σ Unit) (world₂ : World σ)
    (after₂ : After σ Unit) : Prop where
  result : after₁.result = after₂.result
  /-- Both tables are the same, with all values and rates. -/
  matrix : after₁.matrix = after₂.matrix
  asked : ((after₁.world.since world₁).filterMap Entry.asked?).Perm
    ((after₂.world.since world₂).filterMap Entry.asked?)
  said : ((after₁.world.since world₁).filterMap Entry.said?).Perm
    ((after₂.world.since world₂).filterMap Entry.said?)

/-- Exact passes over one matrix agree. -/
theorem agree_of_exact (hp : prober.AnswersBy reading) {world₁ world₂ : World σ}
    {events₁ events₂ : List Event} {after₁ after₂ : After σ Unit}
    (hr : after₁.result = after₂.result)
    (h₁ : Exact prober cluster plan matrix world₁ events₁ after₁)
    (h₂ : Exact prober cluster plan matrix world₂ events₂ after₂) :
    Agree world₁ after₁ world₂ after₂ := by
  have hrec : (recorded events₁).Perm (recorded events₂) :=
    (recorded_perm hp h₁).trans (recorded_perm hp h₂).symm
  have hasked : (targets events₁).Perm (targets events₂) :=
    (h₁.queries_jobs.trans h₂.queries_jobs.symm).map Prod.snd
  refine ⟨hr, h₁.holds.unique h₂.holds hrec, ?_, ?_⟩
  · rw [h₁.told.asked, h₂.told.asked]
    exact hasked
  · rw [h₁.told.said, h₂.told.said]
    exact hrec.flatMap_right matrix.remarks

/--
**A pass depends neither on its schedule nor on the number of its workers.**

Let a prober answer by the question alone. Then any two ways in which passes over the pods of
one built matrix can end agree, whatever happened before them: they leave the same matrix,
have asked the same questions and have said the same, each as often. A pass under any
schedule is such a way.
-/
theorem pass_is_independent (prober : Prober σ) {cluster : Cluster} (plan : Plan)
    {matrix : Matrix} (hp : ∃ reading, prober.AnswersBy reading) (hb : matrix.Built)
    (hids : cluster.ids = matrix.pods) :
    (∀ (workers₁ workers₂ : Option Nat) (world₁ world₂ : World σ) events₁ events₂ after₁ after₂,
      Ends (Pool.make prober workers₁) cluster plan matrix world₁ events₁ after₁ →
      Ends (Pool.make prober workers₂) cluster plan matrix world₂ events₂ after₂ →
        Agree world₁ after₁ world₂ after₂) ∧
    ∀ (workers : Option Nat) (world : World σ) schedule, ∃ events,
      Ends (Pool.make prober workers) cluster plan matrix world events
        (((Pool.make prober workers).under schedule).pass cluster plan matrix world) := by
  obtain ⟨reading, hp⟩ := hp
  have hcrew := make_workers_pos prober
  refine ⟨?_, fun workers world schedule => ?_⟩
  · intro workers₁ workers₂ world₁ world₂ events₁ events₂ after₁ after₂ h₁ h₂
    have hacc₁ := h₁.account (hcrew workers₁) hb hids
    have hacc₂ := h₂.account (hcrew workers₂) hb hids
    obtain ⟨hok₁, hex₁⟩ :=
      hacc₁.exact (hcrew workers₁) hb hids (losses_eq_nil hp.survivable hacc₁.told)
    obtain ⟨hok₂, hex₂⟩ :=
      hacc₂.exact (hcrew workers₂) hb hids (losses_eq_nil hp.survivable hacc₂.told)
    exact agree_of_exact hp (hok₁.trans hok₂.symm) hex₁ hex₂
  · exact pass_ends ((Pool.make prober workers).under schedule) plan world hids

/-- A prober that reaches port 80 and no other. It counts questions, but the count never shows. -/
def counting : Prober Nat where
  ask := fun count target => (.reading { connected := target.port = 80 } [], count + 1)

/-- One worker and three agree, under different schedules and with different memories. -/
theorem pass_is_independent_on_two_pods :
    Agree { memory := 0 }
      (((Pool.make counting (some 1)).under fun _ => .main).pass twoPods {} twoPodsMatrix
        { memory := 0 })
      { memory := 7 }
      (((Pool.make counting (some 3)).under fun tick => .worker (tick % 3)).pass twoPods {}
        twoPodsMatrix { memory := 7 }) := by
  have hp : counting.AnswersBy fun target => { connected := target.port = 80 } :=
    fun _ _ => ⟨[], rfl⟩
  have hids : twoPods.ids = twoPodsMatrix.pods := rfl
  have h := pass_is_independent counting {} ⟨_, hp⟩ built_twoPodsMatrix hids
  obtain ⟨events₁, h₁⟩ := h.2 (some 1) { memory := 0 } fun _ => .main
  obtain ⟨events₂, h₂⟩ := h.2 (some 3) { memory := 7 } fun tick => .worker (tick % 3)
  exact h.1 _ _ _ _ _ _ _ _ h₁ h₂

end Pass

end PodMesh
