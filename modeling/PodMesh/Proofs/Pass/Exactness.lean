import PodMesh.Proofs.Pass.Account
import PodMesh.Proofs.Pass.Progress

/-!
# A pass is exact

When no question kills a worker, a pass comes to its end with one outcome for each ordered
pair of pods, each outcome from a question that was asked about its own pair and about no
other. This holds for a prober that remembers, since nothing is said about what it answers:
the outcomes are measured by the answers that it gave in this very run.
-/

namespace PodMesh.Pass

variable {σ : Type} {cluster : Cluster} {plan : Plan} {matrix : Matrix} {world : World σ}
  {events : List Event} {after : After σ Unit}

/-- One outcome for each pair, each from its own question. -/
structure Exact (prober : Prober σ) (cluster : Cluster) (plan : Plan) (matrix : Matrix)
    (world : World σ) (events : List Event) (after : After σ Unit) : Prop where
  /-- The pairs are all different. -/
  pairs_nodup : cluster.pairs.Nodup
  /-- One outcome is produced for each job, and so for each pair. -/
  produced_jobs : ((produced events).map Outcome.job).Perm (jobs cluster plan)
  /-- What is produced is recorded, once. -/
  recorded_produced : (recorded events).Perm (produced events)
  /-- One outcome is recorded for each pair. -/
  recorded_pairs : ((recorded events).map (·.job.pair)).Perm cluster.pairs
  /-- The prober is asked once about each pair that has a question, and that question. -/
  queries_jobs : (queries events).Perm ((jobs cluster plan).filterMap Job.query?)
  /-- What is recorded of a pair comes from the question about it. -/
  answered : ∀ o ∈ recorded events, Answered events o
  /-- The observations are what was recorded, and everything else stays. -/
  holds : matrix.Holds (recorded events) after.matrix
  /-- The journal shows these questions, and the answers are the prober's. -/
  told : Told prober matrix world events after.world

/-- A prober that kills nobody causes no losses. -/
theorem losses_eq_nil {prober : Prober σ} (hp : prober.Survivable)
    {w : World σ} (h : Told prober matrix world events w) : losses events = [] := by
  refine List.eq_nil_iff_forall_not_mem.mpr fun job hj => ?_
  obtain ⟨target, hcall⟩ := mem_losses.mp hj
  have hans : .death ∈ (calls events).map (·.2.2) := List.mem_map.mpr ⟨_, hcall, rfl⟩
  rw [h.answers] at hans
  exact hp.death_not_mem_answers _ _ hans

/-- Without losses an account is exact. -/
theorem Account.exact {prober : Prober σ} {crew : Nat} (hcrew : 0 < crew) (hb : matrix.Built)
    (hids : cluster.ids = matrix.pods)
    (h : Account prober crew (jobs cluster plan) matrix world events after)
    (hl : losses events = []) :
    after.result = .ok () ∧ Exact prober cluster plan matrix world events after := by
  -- the other ways to end take losses
  generalize hresult : after.result = result
  have hended := h.ended
  rw [hresult] at hended
  cases hended with
  | short hne _ _ _ => exact absurd hl hne
  | abandoned hall _ =>
    rw [hl] at hall
    exact absurd hall (Nat.ne_of_lt hcrew)
  | complete _ hdone hrec =>
    have hq := h.queried.queries
    have hprod : ((produced events).map Outcome.job).Perm (jobs cluster plan) := by
      rw [done, hl] at hdone
      exact hdone
    have hpairs : ((recorded events).map (·.job.pair)).Perm cluster.pairs := by
      have hjobs := ((hrec.map Outcome.job).trans hprod).map Job.pair
      rw [List.map_map, map_pair_jobs] at hjobs
      exact hjobs
    exact ⟨rfl, {
      pairs_nodup := pairs_nodup hb.sound hids
      produced_jobs := hprod
      recorded_produced := hrec
      recorded_pairs := hpairs
      queries_jobs := hq.trans (hdone.filterMap _)
      answered := fun o ho => h.queried.answered o (hrec.mem_iff.mp ho)
      holds := h.holds
      told := h.told }⟩

/--
**A pass is exact, whichever way its threads are interleaved.**

Let no question kill a worker. Then every way in which a pass over the pods of a built matrix
can end is a success, with one outcome produced and recorded for each ordered pair, one
question for each pair that has one, and in each cell what came of the question about it. A
pass under any schedule is such a way.
-/
theorem pass_is_exact (prober : Prober σ) (workers : Option Nat) {cluster : Cluster}
    (plan : Plan) {matrix : Matrix} (world : World σ) (hp : prober.Survivable)
    (hb : matrix.Built) (hids : cluster.ids = matrix.pods) :
    (∀ events after, Ends (Pool.make prober workers) cluster plan matrix world events after →
      after.result = .ok () ∧ Exact prober cluster plan matrix world events after) ∧
    ∀ schedule, ∃ events, Ends (Pool.make prober workers) cluster plan matrix world events
      (((Pool.make prober workers).under schedule).pass cluster plan matrix world) := by
  have hcrew := make_workers_pos prober workers
  refine ⟨fun events after h => ?_, fun schedule => ?_⟩
  · have hacc := h.account hcrew hb hids
    exact hacc.exact hcrew hb hids (losses_eq_nil hp hacc.told)
  · exact pass_ends ((Pool.make prober workers).under schedule) plan world hids

/-- A prober that answers yes and no in turn, whatever it is asked. -/
def alternating : Prober Bool where
  ask := fun yes _ => (.reading { connected := yes } [], !yes)

/-- Three workers share a prober that remembers, and yet each pair gets its own answer. -/
theorem pass_is_exact_on_two_pods : ∃ events after,
    Ends (Pool.make alternating (some 3)) twoPods {} twoPodsMatrix { memory := true } events after ∧
    after.result = .ok () ∧
    Exact alternating twoPods {} twoPodsMatrix { memory := true } events after := by
  have hp : alternating.Survivable := fun _ _ => Answer.noConfusion
  have h := pass_is_exact alternating (some 3) {} { memory := true } hp built_twoPodsMatrix rfl
  obtain ⟨events, hends⟩ := h.2 fun tick => .worker (tick % 3)
  exact ⟨events, _, hends, h.1 events _ hends⟩

end PodMesh.Pass
