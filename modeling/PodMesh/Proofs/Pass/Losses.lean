import PodMesh.Proofs.Pass.Account
import PodMesh.Proofs.Pass.Progress

/-!
# Lost workers

A worker that is lost takes its job with it and nothing else. As long as one worker is left,
every other pair still gets its outcome, and the pass reports how many it got. If all are
lost the pass reports that too, and what it recorded until then stays. In no case does a
pass with losses succeed, nor one without them fail.
-/

namespace PodMesh.Pass

variable {σ : Type} {cluster : Cluster} {plan : Plan} {matrix : Matrix} {world : World σ}
  {events : List Event} {after : After σ Unit}

/-- Losses take their own pairs with them, and all others are settled. -/
structure Spared (js : List Job) (matrix : Matrix) (events : List Event)
    (after : After σ Unit) : Prop where
  /-- Each job is either lost or recorded, and once. -/
  jobs : (losses events ++ (recorded events).map Outcome.job).Perm js
  /-- A pair that is not lost shows the outcome that came of it. -/
  settled : ∀ job ∈ js, job ∉ losses events → ∃ o ∈ recorded events, o.job = job ∧
    Answered events o ∧
    after.matrix.observed.value job.keys.1 job.keys.2 = .ok (some o.connected) ∧
    after.matrix.observed.rate job.keys.1 job.keys.2 =
      (matrix.observed.rate job.keys.1 job.keys.2).map (o.rate.or ·)
  /-- A pair that is lost shows what it showed before. -/
  lost : ∀ job ∈ losses events,
    after.matrix.observed.value job.keys.1 job.keys.2 =
      matrix.observed.value job.keys.1 job.keys.2 ∧
    after.matrix.observed.rate job.keys.1 job.keys.2 =
      matrix.observed.rate job.keys.1 job.keys.2

/-- What the number of losses says about a pass of a crew over some jobs. -/
structure Verdict (crew : Nat) (js : List Job) (matrix : Matrix) (events : List Event)
    (after : After σ Unit) : Prop where
  /-- Nobody is lost twice. -/
  le : (losses events).length ≤ crew
  /-- Success is the absence of losses. -/
  ok_iff : after.result = .ok () ↔ (losses events).length = 0
  /-- With some lost and some left, only the lost outcomes are missing. -/
  some_lost : 0 < (losses events).length → (losses events).length < crew →
    after.result =
      .error (.incomplete (js.length - (losses events).length) js.length) ∧
    Spared js matrix events after
  /-- With all lost, the pass got no further than it says. -/
  all_lost : (losses events).length = crew →
    (∃ n, after.result = .error (.incomplete n js.length) ∧ n + crew ≤ js.length ∧
      (recorded events).length = n ∧ ((recorded events).map (·.job.keys)).Nodup ∧
      matrix.Holds (recorded events) after.matrix) ∨
    after.result = .error .workersGone ∧ after.matrix = matrix

/-- If every job is lost or settled and all that is settled is recorded, only the lost pairs go
without. -/
theorem Account.spared {prober : Prober σ} {crew : Nat} {js : List Job}
    (h : Account prober crew js matrix world events after) (hdone : (done events).Perm js)
    (hrec : (recorded events).Perm (produced events)) : Spared js matrix events after := by
  have hjobs : (losses events ++ (recorded events).map Outcome.job).Perm js :=
    ((hrec.map Outcome.job).append_left _).trans hdone
  refine ⟨hjobs, fun job hj hnot => ?_, fun job hj => ?_⟩
  · rcases List.mem_append.mp (hjobs.mem_iff.mpr hj) with hlost | hrecorded
    · exact absurd hlost hnot
    · obtain ⟨o, ho, rfl⟩ := List.mem_map.mp hrecorded
      exact ⟨o, ho, rfl, h.queried.answered o (hrec.mem_iff.mp ho), h.holds.value o ho,
        h.holds.rate o ho⟩
  · -- a lost pair has a key of its own, so no outcome was entered under it
    have hother : job.keys ∉ (recorded events).map (·.job.keys) := by
      intro hmem
      have hproduced := (hrec.map (·.job.keys)).mem_iff.mp hmem
      exact (List.nodup_append.mp h.keys_nodup).2.2 _ (List.mem_map_of_mem hj) _ hproduced rfl
    exact ⟨h.holds.other_value _ _ hother, h.holds.other_rate _ _ hother⟩

/-- An account leads to a verdict. -/
theorem Account.verdict {prober : Prober σ} {crew : Nat} {js : List Job} (hcrew : 0 < crew)
    (h : Account prober crew js matrix world events after) :
    Verdict crew js matrix events after := by
  generalize hresult : after.result = result
  have hended := h.ended
  rw [hresult] at hended
  cases hended with
  | complete hl hdone hrec =>
    have hk : (losses events).length = 0 := by rw [hl]; rfl
    refine ⟨h.losses_le, ⟨fun _ => hk, fun _ => hresult⟩, fun hpos => ?_, fun hall => ?_⟩
    · omega
    · omega
  | @short left hne hdone hrec hleft =>
    have hpos : (losses events).length ≠ 0 := fun hz => hne (List.eq_nil_of_length_eq_zero hz)
    have hcount := hdone.length_eq
    have hrl := hrec.length_eq
    simp only [done, List.length_append, List.length_map] at hcount
    refine ⟨h.losses_le, ⟨fun hok => ?_, fun hz => absurd hz hpos⟩, fun _ hlt => ?_,
      fun hall => .inl ⟨(recorded events).length, hresult, ?_, rfl, ?_, h.holds⟩⟩
    · rw [hresult] at hok
      exact absurd hok (by simp)
    · have hnil := hleft hlt
      subst hnil
      have hn : (recorded events).length = js.length - (losses events).length := by
        rw [List.length_nil] at hcount
        omega
      rw [hn] at hresult
      exact ⟨hresult, h.spared hdone hrec⟩
    · omega
    · have hproduced := (List.nodup_append.mp h.keys_nodup).2.1
      exact ((hrec.map (·.job.keys)).nodup_iff).mpr hproduced
  | abandoned hall hrec =>
    have hmatrix : after.matrix = matrix :=
      (hrec ▸ h.holds).unique (Matrix.holds_nil matrix) (.refl _)
    refine ⟨h.losses_le, ⟨fun hok => ?_, fun hz => ?_⟩, fun _ hlt => ?_,
      fun _ => .inr ⟨hresult, hmatrix⟩⟩
    · rw [hresult] at hok
      exact absurd hok (by simp)
    · omega
    · omega

/--
**Lost workers are never mistaken for success, and lose only their own pairs.**

Every way in which a pass over the pods of a built matrix can end keeps to its verdict: it
succeeds if no question killed a worker; it lacks exactly the lost pairs if some worker was
left; and it says that it fell short, or that the workers are gone, if none was. A pass under
any schedule is such a way.
-/
theorem losses_decide_pass (pool : Pool σ) {cluster : Cluster} (plan : Plan) {matrix : Matrix}
    (world : World σ) (hcrew : 0 < pool.workers) (hb : matrix.Built)
    (hids : cluster.ids = matrix.pods) :
    (jobs cluster plan).length = cluster.pods.length * cluster.pods.length ∧
    (∀ events after, Ends pool cluster plan matrix world events after →
      Verdict pool.workers (jobs cluster plan) matrix events after) ∧
    ∀ schedule, ∃ events, Ends pool cluster plan matrix world events
      ((pool.under schedule).pass cluster plan matrix world) := by
  refine ⟨length_jobs cluster plan, fun events after h => ?_, fun schedule => ?_⟩
  · exact (h.account hcrew hb hids).verdict hcrew
  · exact pass_ends (pool.under schedule) plan world hids

/-- One of two workers is lost, and one outcome of four is missing. -/
theorem losses_decide_pass_on_two_pods : ∃ events after,
    Ends (Pool.make Rehearsal.prober (some 2)) twoPods {} twoPodsMatrix fatalOnce events after ∧
    after.result = .error (.incomplete 3 4) ∧ (losses events).length = 1 ∧
    Spared (jobs twoPods {}) twoPodsMatrix events after := by
  have hids : twoPods.ids = twoPodsMatrix.pods := rfl
  have h := losses_decide_pass (Pool.make Rehearsal.prober (some 2)) {} fatalOnce (by decide)
    built_twoPodsMatrix hids
  obtain ⟨events, hends⟩ := h.2.2 fun _ => .main
  have hv := h.2.1 events _ hends
  have hsize : (jobs twoPods {}).length = 4 := h.1
  have hresult : ((Pool.make Rehearsal.prober (some 2)).pass twoPods {} twoPodsMatrix
      fatalOnce).result = .error (.incomplete 3 4) := by rfl
  have hle : (losses events).length ≤ 2 := hv.le
  have hpos : (losses events).length ≠ 0 := fun hz =>
    absurd (hresult.symm.trans (hv.ok_iff.mpr hz)) (by simp)
  -- had both workers been lost, two outcomes at most would be recorded
  have hlt : (losses events).length < 2 := by
    rcases Nat.lt_or_eq_of_le hle with hlt | heq
    · exact hlt
    · rcases hv.all_lost heq with ⟨n, hn, hcount, _⟩ | ⟨hgone, _⟩
      · have heq := hresult.symm.trans hn
        injection heq with heq
        injection heq with hthree
        have hcrew : (Pool.make Rehearsal.prober (some 2)).workers = 2 := rfl
        omega
      · exact absurd (hresult.symm.trans hgone) (by simp)
  have hsome := hv.some_lost (Nat.pos_of_ne_zero hpos) hlt
  exact ⟨events, _, hends, hresult, by omega, hsome.2⟩

end PodMesh.Pass
