import PodMesh.Proofs.Pass.Independence
import PodMesh.Proofs.Pass.Remarks
import PodMesh.Proofs.Pass.Whole

/-!
# What a pass reports

A pass decides what is a mismatch while it runs, outcome by outcome; a tally decides it again from
the finished tables. The two agree. A pass makes one remark for each outcome that it records and
none besides, so its lines are those of the remarks. After a whole pass the pairs of the mismatches
among them are those that the comparison marks, in some order (`pass_reports_mismatches`).
-/

namespace PodMesh

/-- What was said since an earlier moment by the one who runs the passes. -/
def World.saidSince {σ : Type} (w w₀ : World σ) : List Notice :=
  (w.since w₀).filterMap Entry.said?

/-- The keys of the cells that a comparison marks as different. -/
def Tally.different (t : Tally) : List (String × String) :=
  (t.comparison.cells.filter fun (_, _, same) => same = some false).map fun (p, q, _) => (p, q)

/-- Going through a list and keeping something for the elements that fail a test. -/
theorem flatMap_ite_eq_map_filter {α β : Type} (p : α → Prop) [DecidablePred p] (f : α → β)
    (xs : List α) :
    (xs.flatMap fun x => if p x then [] else [f x]) = (xs.filter fun x => ¬ p x).map f := by
  induction xs with
  | nil => rfl
  | cons x xs ih =>
    rw [List.flatMap_cons, ih]
    by_cases h : p x
    · rw [if_pos h, List.filter_cons_of_neg (by simp [h])]
      rfl
    · rw [if_neg h, List.filter_cons_of_pos (by simp [h])]
      rfl

/-- A comparison marks the pairs that are wrong when every pair counts. -/
theorem Matrix.Sound.exists_different {m : Matrix} (hs : m.Sound) (ignoreLoopback : Bool) :
    ∃ t, m.tally ignoreLoopback = .ok (t, []) ∧
      t.different = (m.wrong false).map (Prod.map Identity.text Identity.text) := by
  obtain ⟨c, htally, _, hcells⟩ := hs.exists_tally ignoreLoopback
  refine ⟨_, htally, ?_⟩
  rw [Tally.different, hcells, List.filter_map, List.map_map, Matrix.wrong]
  refine congrArg (List.map _) (List.filter_congr fun pair _ => ?_)
  simp [Matrix.counts]

namespace Pass

variable {σ : Type} {pool : Pool σ} {cluster : Cluster} {plan : Plan} {matrix : Matrix}
  {world : World σ} {events : List Event} {after : After σ Unit} {os : List Outcome}

/-- The lines that a pass prints which records some outcomes and leaves a matrix. -/
structure Reported (cluster : Cluster) (matrix : Matrix) (os : List Outcome) (left : Matrix)
    (said : List Notice) : Prop where
  /-- There is one outcome for each two pods, a pod with itself included. -/
  pods : (os.map fun o => (o.job.source, o.job.target)).Perm (cluster.pods ×ˢ cluster.pods)
  /-- One remark is made for each outcome, and nothing besides. -/
  remarks_eq : said = os.flatMap matrix.remarks
  /-- Each remark is about its own outcome. -/
  remark : ∀ o ∈ os, Remark matrix o (matrix.remarks o)
  /-- Of every pair one line tells that it is skipped, or else that it was probed. -/
  probed : Notice.linesWith ["DEBUG skipping probe ", "DEBUG validating "] said = os.map fun o =>
    Notice.probeLine o.job.target.skipped o.job.source.id.text o.job.target.id.text o.command
  /-- The mismatches that are reported are those that any comparison of the matrix marks. -/
  mismatches : ∀ ignoreLoopback, ∃ t, left.tally ignoreLoopback = .ok (t, []) ∧
    (Notice.linesWith ["ERROR connection mismatch "] said).Perm
      (t.different.map fun (p, q) => Notice.mismatchLine p q)
  /-- There are as many as a tally of all pairs finds incorrect. -/
  number : ∃ t, left.tally false = .ok (t, []) ∧
    (Notice.linesWith ["ERROR connection mismatch "] said).length = t.incorrect
  /-- There is one warning for each, with the command of the outcome that missed. -/
  warnings : Notice.linesWith ["WARN "] said = (matrix.misses false os).map fun o =>
    Notice.warningLine (matrix.expected? o.job.pair = some true) o.command

theorem misses_eq_filter (matrix : Matrix) (os : List Outcome) :
    matrix.misses false os =
      os.filter fun o => ¬ some o.connected = matrix.expected? o.job.pair := by
  refine List.filter_congr fun o _ => ?_
  simp [Matrix.counts]

section Remarks

variable (h : ∀ o ∈ os, Remark matrix o (matrix.remarks o))

include h

theorem linesWith_probed_remarks :
    Notice.linesWith ["DEBUG skipping probe ", "DEBUG validating "] (os.flatMap matrix.remarks) =
      os.map fun o => Notice.probeLine o.job.target.skipped o.job.source.id.text
        o.job.target.id.text o.command := by
  rw [Notice.linesWith_flatMap, List.flatMap_congr fun o ho => (h o ho).probed,
    List.map_eq_flatMap]

/-- Remarks tell of the mismatches among the outcomes, in their order. -/
theorem linesWith_mismatch_remarks :
    Notice.linesWith ["ERROR connection mismatch "] (os.flatMap matrix.remarks) =
      (matrix.misses false os).map fun o =>
        Notice.mismatchLine o.job.source.id.text o.job.target.id.text := by
  rw [Notice.linesWith_flatMap, List.flatMap_congr fun o ho => (h o ho).mismatch,
    flatMap_ite_eq_map_filter, misses_eq_filter]

theorem linesWith_warning_remarks :
    Notice.linesWith ["WARN "] (os.flatMap matrix.remarks) =
      (matrix.misses false os).map fun o =>
        Notice.warningLine (matrix.expected? o.job.pair = some true) o.command := by
  rw [Notice.linesWith_flatMap, List.flatMap_congr fun o ho => (h o ho).warning,
    flatMap_ite_eq_map_filter, misses_eq_filter]

end Remarks

/-- **A whole pass reports what a tally then finds.** -/
theorem Whole.reported (h : Whole pool cluster plan matrix world events after) (hb : matrix.Built)
    (hids : cluster.ids = matrix.pods) : Reported cluster matrix (recorded events) after.matrix
      (after.world.saidSince world) := by
  have hsaid : after.world.saidSince world = (recorded events).flatMap matrix.remarks :=
    h.exact.told.said
  have hremark : ∀ o ∈ recorded events, Remark matrix o (matrix.remarks o) := fun o ho => by
    refine hb.sound.remark ?_
    have hpair := List.mem_product.mp (h.pair_mem ho)
    rw [hids] at hpair
    exact hpair
  -- the lines of the mismatches, by the pairs that are wrong
  have hlines : (Notice.linesWith ["ERROR connection mismatch "]
      (after.world.saidSince world)).Perm ((after.matrix.wrong false).map fun pair =>
        Notice.mismatchLine pair.1.text pair.2.text) := by
    rw [hsaid, linesWith_mismatch_remarks hremark]
    have hperm := (h.wrong_perm hids false).symm.map fun pair =>
      Notice.mismatchLine pair.1.text pair.2.text
    rw [List.map_map] at hperm
    exact hperm
  refine ⟨?_, hsaid, hremark, ?_, fun ignoreLoopback => ?_, ?_, ?_⟩
  · have hpods := ((h.exact.recorded_produced.map Outcome.job).trans h.exact.produced_jobs).map
      fun job => (job.source, job.target)
    rw [List.map_map, map_pods_jobs] at hpods
    exact hpods
  · rw [hsaid]
    exact linesWith_probed_remarks hremark
  · obtain ⟨t, ht, hdifferent⟩ := (h.built hb).sound.exists_different ignoreLoopback
    refine ⟨t, ht, ?_⟩
    rw [hdifferent, List.map_map]
    exact hlines
  · obtain ⟨t, ht, hincorrect⟩ := (h.built hb).sound.tally_eq false
    refine ⟨t, ht, ?_⟩
    rw [hincorrect, hlines.length_eq, List.length_map]
  · rw [hsaid]
    exact linesWith_warning_remarks hremark

/--
**The mismatches that a pass reports are those that its tables show.**

Let no question kill a worker. Under any schedule, a pass over the pods of a built matrix
succeeds. For every pair it prints one line, that it skipped or that it probed it. It reports a
mismatch for exactly the pairs that the comparison of its tables marks, in one line each, so there
are as many as a tally of all pairs finds incorrect; and with each goes one warning, which says
what was expected and shows the command.
-/
theorem pass_reports_mismatches (prober : Prober σ) (workers : Option Nat)
    (schedule : Nat → Thread) {cluster : Cluster} (plan : Plan) {matrix : Matrix}
    (world : World σ) (hp : prober.Survivable) (hb : matrix.Built)
    (hids : cluster.ids = matrix.pods) :
    let pool := (Pool.make prober workers).under schedule
    let after := pool.pass cluster plan matrix world
    ∃ events, Whole pool cluster plan matrix world events after ∧
      Reported cluster matrix (recorded events) after.matrix (after.world.saidSince world) := by
  intro pool after
  obtain ⟨events, hwhole⟩ :=
    exists_whole pool plan world (make_workers_pos prober workers) hp hb hids
  exact ⟨events, hwhole, hwhole.reported hb hids⟩

/-- Port 80 is reached and expected everywhere, but one pod of two has no address. So two mismatches
are reported, and warned of without a command. -/
theorem pass_reports_mismatches_on_two_pods :
    let pool := (Pool.make counting (some 3)).under fun tick => .worker (tick % 3)
    let after := pool.pass twoPods {} twoPodsMatrix { memory := 0 }
    let said := after.world.saidSince { memory := 0 }
    ∃ events, Whole pool twoPods {} twoPodsMatrix { memory := 0 } events after ∧
      Reported twoPods twoPodsMatrix (recorded events) after.matrix said ∧
      Notice.linesWith ["ERROR connection mismatch "] said =
        ["ERROR connection mismatch n/a -> n/a", "ERROR connection mismatch n/b -> n/a"] := by
  intro pool after said
  have hp : counting.Survivable := fun _ _ => Answer.noConfusion
  obtain ⟨events, hwhole, hreported⟩ := pass_reports_mismatches counting (some 3)
    (fun tick => .worker (tick % 3)) {} { memory := 0 } hp built_twoPodsMatrix rfl
  have hlines : Notice.linesWith ["ERROR connection mismatch "] said =
      ["ERROR connection mismatch n/a -> n/a", "ERROR connection mismatch n/b -> n/a"] := by
    decide +kernel
  exact ⟨events, hwhole, hreported, hlines⟩

end Pass

end PodMesh
