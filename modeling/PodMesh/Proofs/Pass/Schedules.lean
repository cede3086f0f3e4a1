import PodMesh.Proofs.Pass.Account
import PodMesh.Proofs.Pass.Progress

/-!
# Schedules and interleavings

A schedule names a thread for each moment, and so a pass under a schedule is one interleaving
of its threads. Conversely a run tells a schedule at each of its steps whom to name, and since
no moment comes twice it never tells two things of one. So what is proved of passes under every
schedule is proved of every interleaving: the ways in which a pass can end are those in which
it ends under the schedules (`ends_iff_schedule`).
-/

namespace PodMesh.Pass

variable {σ : Type} {prober : Prober σ} {size : Nat} {s s' : State σ} {es new : List Event}
  {js : List Job} {m : Matrix} {world : World σ} {pool : Pool σ}

/-- Nothing moves once the main thread has ended. -/
theorem Stage.not_ended_of_move (h : Stage size es s) (hm : Move prober size s new s') :
    s.isEnded = false := by
  cases hm with
  | send hmain _ _ _ | giveUp hmain _ _ | close hmain _ | enter hmain _ _ _ | refuse hmain _ _ _
  | complete hmain | fallShort hmain _ _ _ | join hmain _ => simp [State.isEnded, hmain]
  | take hws _ | leave hws _ _ | settle hws _ | ask hws _ _ | die hws _ _ | deliver hws _ _
  | discard hws _ => exact h.not_ended hws rfl

/-- A schedule that names a thread which can move makes it move. -/
theorem next_of_scheduled {thread : Thread} (hthread : pool.schedule s.world.clock = thread)
    (hs : s.step pool.prober size thread = some s') : s.next pool size = some s' := by
  rw [State.next, hthread, hs]
  rfl

/-- **Every run over a sound matrix is that of a schedule**, and of any other that names the same
threads until then. -/
theorem exists_schedule (hs : m.Sound) (hk : (js.map Job.keys).Nodup)
    (hw : ∀ job ∈ js, job.Within m)
    (h : Run pool.prober js.length (start pool js m world) es s) :
    ∃ (schedule : Nat → Thread) (made : Nat), s.world.clock = world.clock + made ∧
      ∀ schedule' : Nat → Thread, (∀ tick < s.world.clock, schedule' tick = schedule tick) →
        ∀ steps, (start pool js m world).run (pool.under schedule') js.length (made + steps) =
          s.run (pool.under schedule') js.length steps := by
  induction h with
  | start => exact ⟨pool.schedule, 0, rfl, fun _ _ steps => by rw [Nat.zero_add]⟩
  | @step es s s' thread hrun hstep ih =>
    obtain ⟨schedule, made, hclock, hfollow⟩ := ih
    obtain ⟨_, _, hstage⟩ := invariants_run hs hk hw hrun
    have hmove := step_move hstep
    have hclock' := clock_move hmove
    -- the clock has moved on since every earlier step, so this moment is still free
    refine ⟨Function.update schedule s.world.clock thread, made + 1, by omega,
      fun schedule' hagree steps => ?_⟩
    have hbefore : ∀ tick < s.world.clock, schedule' tick = schedule tick := fun tick hlt => by
      rw [hagree tick (by omega), Function.update_of_ne (Nat.ne_of_lt hlt)]
    have hnow : schedule' s.world.clock = thread := by
      rw [hagree s.world.clock (by omega), Function.update_self]
    have hnext : s.next (pool.under schedule') js.length = some s' := next_of_scheduled hnow hstep
    rw [Nat.add_assoc, Nat.add_comm 1, hfollow schedule' hbefore,
      run_succ (hstage.not_ended_of_move hmove) hnext]

/-- **The ways in which a pass over a built matrix can end are those in which it ends under the
schedules.** -/
theorem ends_iff_schedule {cluster : Cluster} {plan : Plan} {matrix : Matrix} {after : After σ Unit}
    (hb : matrix.Built) (hids : cluster.ids = matrix.pods) :
    (∃ events, Ends pool cluster plan matrix world events after) ↔
      ∃ schedule, (pool.under schedule).pass cluster plan matrix world = after := by
  constructor
  · rintro ⟨events, last, hrun, hmain, hmatrix, hworld⟩
    have hended : last.isEnded = true := by simp [State.isEnded, hmain]
    obtain ⟨schedule, made, hclock, hfollow⟩ := exists_schedule hb.sound
      (keys_nodup hb.sound hids plan) (fun _ => within_of_mem_jobs hids) hrun
    -- the weight at the start is enough for the steps that were made
    have hweight := clock_run hrun
    have hstart : (start pool (jobs cluster plan) matrix world).world.clock = world.clock := rfl
    obtain ⟨steps, hsteps⟩ := Nat.le.dest
      (show made ≤ (start pool (jobs cluster plan) matrix world).weight by omega)
    have hlast := hfollow schedule (fun _ _ => rfl) steps
    rw [run_of_isEnded _ hended, hsteps] at hlast
    have hpass : (pool.under schedule).pass cluster plan matrix world =
        ⟨last.result (jobs cluster plan).length, last.matrix, last.world⟩ :=
      (if_pos hids).trans (congrArg (fun s : State σ =>
        (⟨s.result (jobs cluster plan).length, s.matrix, s.world⟩ : After σ Unit)) hlast)
    refine ⟨schedule, ?_⟩
    rw [hpass, hmatrix, hworld, State.result, hmain]
  · rintro ⟨schedule, rfl⟩
    exact pass_ends (pool.under schedule) plan world hids

end PodMesh.Pass
