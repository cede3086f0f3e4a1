import PodMesh.Proofs.Pass.Journal

/-!
# What a pass leaves behind

The account of a pass over a built matrix, however its threads were interleaved: how it
ended, what it observed, whom it asked and what it said. What is to be known about passes
follows from it without another look at their steps.
-/

namespace PodMesh.Pass

variable {σ : Type} {cluster : Cluster} {plan : Plan} {matrix : Matrix} {world : World σ}
  {events : List Event} {after : After σ Unit}

/-- The account of a pass. -/
structure Account (prober : Prober σ) (crew : Nat) (js : List Job) (matrix : Matrix)
    (world : World σ) (events : List Event) (after : After σ Unit) : Prop where
  /-- Losses decide how it ends. -/
  ended : Ended js crew events after.result
  /-- There are no more losses than workers. -/
  losses_le : (losses events).length ≤ crew
  /-- No pair is lost twice, or lost and settled, or settled twice. -/
  keys_nodup : ((losses events).map Job.keys ++ (produced events).map (·.job.keys)).Nodup
  /-- The observations are the recorded outcomes, and what they leave of the old ones. -/
  holds : matrix.Holds (recorded events) after.matrix
  /-- Questions, losses and outcomes go together. -/
  queried : Queried events
  /-- The journal tells what happened. -/
  told : Told prober matrix world events after.world

/-- No pool is made without workers. -/
theorem make_workers_pos (prober : Prober σ) (workers : Option Nat) :
    0 < (Pool.make prober workers).workers :=
  Nat.le_max_left 1 _

/-- **Every way in which a pass over a built matrix can end has its account.** -/
theorem Ends.account {pool : Pool σ} (hcrew : 0 < pool.workers) (hb : matrix.Built)
    (hids : cluster.ids = matrix.pods) (h : Ends pool cluster plan matrix world events after) :
    Account pool.prober pool.workers (jobs cluster plan) matrix world events after := by
  obtain ⟨last, hrun, hmain, hmatrix, hworld⟩ := h
  have hs := hb.sound
  have hk := keys_nodup hs hids plan
  have hw : ∀ job ∈ jobs cluster plan, job.Within matrix := fun _ => within_of_mem_jobs hids
  obtain ⟨hc, hkept, hstage⟩ := invariants_run hs hk hw hrun
  exact {
    ended := ended_cases hcrew hc hstage hmain
    losses_le := by
      rw [← hc.lost, ← hc.crew]
      exact List.count_le_length
    keys_nodup := settled_keys_nodup hc hk
    holds := hmatrix ▸ hkept.holds
    queried := queried_run hrun
    told := hworld ▸ told_run hs hk hw hrun }

/-- **A pass asks the questions of its own jobs and no others.** -/
theorem Ends.asked {pool : Pool σ} (hcrew : 0 < pool.workers) (hb : matrix.Built)
    (hids : cluster.ids = matrix.pods) (h : Ends pool cluster plan matrix world events after) :
    world.journal <+: after.world.journal ∧ ∀ target ∈ after.world.askedSince world,
      ∃ job ∈ jobs cluster plan, job.target? = some target := by
  have hacc := h.account hcrew hb hids
  obtain ⟨last, hrun, _⟩ := h
  refine ⟨hacc.told.grown, fun target htarget => ?_⟩
  rw [World.askedSince, hacc.told.asked] at htarget
  obtain ⟨query, hquery, rfl⟩ := List.mem_map.mp htarget
  obtain ⟨hdone, ht⟩ := (mem_queries_iff hacc.queried).mp hquery
  exact ⟨query.1, mem_of_done (conserved_run hrun) hdone, ht⟩

end PodMesh.Pass
