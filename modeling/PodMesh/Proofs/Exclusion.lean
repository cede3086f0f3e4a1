import PodMesh.Proofs.Cluster.Exclusion
import PodMesh.Proofs.Pass.Completion
import PodMesh.Proofs.Pass.Independence
import PodMesh.Proofs.Pass.Laps
import PodMesh.Proofs.Pass.Whole

/-!
# Passes over excluded pods

Marks are put on pods before the first pass and are looked at in every job of every later one. A job
to an excluded pod puts no question and has its outcome at once, and the worker that settles it goes
on to its next job. Any other job puts the question that it would put without the exclusion
(`Job.target?_excluding`), for marks are in no question. So every pass keeps to the exclusion,
whoever is asked and however its threads are interleaved (`Ends.heeds`), and with it all work that
is made of passes (`exclusion_lasts`).
-/

namespace PodMesh

open Pass

variable {σ : Type} {test : String → Bool} {c : Cluster}

/-! ## Jobs -/

namespace Job

/-- The job as it is once all pods that satisfy a test are excluded. -/
def excluding (job : Job) (test : String → Bool) : Job :=
  { job with source := job.source.excluding test, target := job.target.excluding test }

/-- Does a job lead to an excluded pod? -/
def toExcluded (job : Job) (test : String → Bool) : Bool := test job.target.id.text

@[simp] theorem keys_excluding (job : Job) (test : String → Bool) :
    (job.excluding test).keys = job.keys := by
  simp [keys, excluding]

/-- A job to an excluded pod calls for nothing. -/
theorem call_excluding {job : Job} (h : job.toExcluded test = true) :
    (job.excluding test).call = .skip := by
  have hskipped : (job.excluding test).target.skipped = true := by
    rw [excluding, Pod.skipped_excluding, show test job.target.id.text = true from h, Bool.or_true]
  rw [call, if_pos hskipped]

/-- **A job to an excluded pod puts no question, and any other puts its own.** -/
theorem target?_excluding (job : Job) (test : String → Bool) :
    (job.excluding test).target? = if job.toExcluded test then none else job.target? := by
  split
  case isTrue h =>
    cases htarget : (job.excluding test).target? with
    | none => rfl
    | some target =>
      have hcall := call_eq_ask_iff.mpr htarget
      rw [call_excluding h] at hcall
      exact nomatch hcall
  case isFalse h =>
    -- the destination is as it was, and of the source only the mark may have changed
    have hnot : test job.target.id.text = false := Bool.not_eq_true _ ▸ h
    rw [excluding, Pod.excluding_of_not hnot]
    unfold Pod.excluding
    split
    · rfl
    · rfl

theorem query?_excluding (job : Job) (test : String → Bool) :
    (job.excluding test).query? = if job.toExcluded test then none
      else job.query?.map fun query => (query.1.excluding test, query.2) := by
  rw [query?, target?_excluding]
  split
  · rfl
  · rw [query?, Option.map_map]
    rfl

end Job

namespace Pass

variable {plan : Plan} {matrix : Matrix} {world : World σ} {events : List Event}
  {after : After σ Unit} {pool : Pool σ}

/-- The jobs of a pass are those there would be, between pods as they are marked now. -/
theorem jobs_exclude (c : Cluster) (test : String → Bool) (plan : Plan) :
    jobs (c.exclude test).1 plan = (jobs c plan).map (Job.excluding · test) := by
  simp [jobs, List.flatMap_map, List.map_flatMap, Function.comp_def, Job.excluding]

/-! ## Passes -/

/-- Does a matrix show every excluded pod of a cluster as reached from every pod? -/
def ShowsReached (c : Cluster) (test : String → Bool) (m : Matrix) : Prop :=
  ∀ source ∈ c.ids, ∀ target ∈ c.ids, test target.text = true →
    m.observed.value source.text target.text = .ok (some true)

/-- How a pass over a cluster keeps to the exclusion of those pods that satisfy a test. -/
structure Heeds (c : Cluster) (test : String → Bool) (plan : Plan) (events : List Event)
    (after : After σ Unit) : Prop where
  /-- No question is about a pair with an excluded destination. About any other pair that is done
  with, what would be asked without the exclusion is asked, and nothing else. -/
  asked : ∀ query, query ∈ queries events ↔ ∃ job ∈ jobs c plan, job.toExcluded test = false ∧
    query.1 = job.excluding test ∧ query.1 ∈ done events ∧ job.target? = some query.2
  /-- A success is done with every pair, those that are skipped and those that come after. -/
  settled : after.result = .ok () → (done events).Perm ((jobs c plan).map (Job.excluding · test))
  /-- After a success the column of each excluded pod is true. -/
  reached : after.result = .ok () → ShowsReached c test after.matrix
  /-- About any other pair that is done with, the same is asked, or nothing, as in whatever pass
  without the exclusion is done with it. -/
  same : ∀ {τ : Type} {pool' : Pool τ} {matrix' : Matrix} {world' : World τ}
    {events' : List Event} {after' : After τ Unit},
    Ends pool' c plan matrix' world' events' after' →
    ∀ job, job.toExcluded test = false → job.excluding test ∈ done events → job ∈ done events' →
      ∀ target, (job.excluding test, target) ∈ queries events ↔ (job, target) ∈ queries events'
  /-- Of two passes that succeed the one with the exclusion asks what the one without asks about
  the other pairs, each question as often. -/
  rest : ∀ {τ : Type} {pool' : Pool τ} {matrix' : Matrix} {world' : World τ}
    {events' : List Event} {after' : After τ Unit},
    Ends pool' c plan matrix' world' events' after' →
    after.result = .ok () → after'.result = .ok () →
      (queries events).Perm (((queries events').filter fun query =>
        !query.1.toExcluded test).map fun query => (query.1.excluding test, query.2))

/-- The questions of some jobs between marked pods are those of the jobs to the other pods. -/
theorem filterMap_query?_excluding (js : List Job) (test : String → Bool) :
    (js.map (Job.excluding · test)).filterMap Job.query? =
      ((js.filterMap Job.query?).filter fun query => !query.1.toExcluded test).map
        fun query => (query.1.excluding test, query.2) := by
  rw [List.filterMap_map, List.filter_filterMap, List.map_filterMap]
  refine List.filterMap_congr fun job _ => ?_
  rw [Function.comp_apply, Job.query?_excluding, Job.query?]
  cases job.target? with
  | none => simp
  | some target => cases h : job.toExcluded test <;> simp [h, Option.filter_some]

/-- A job that is skipped has but one outcome. -/
theorem connected_of_skip {o : Outcome} (h : Answered events o) (hcall : o.job.call = .skip) :
    o.connected = true := by
  rcases h with (⟨_, ho⟩ | ⟨error, hhopeless, _⟩) | ⟨target, _, _, htarget, _, _⟩
  · rw [ho]
    rfl
  · exact nomatch hcall.symm.trans hhopeless
  · exact nomatch hcall.symm.trans (Job.call_eq_ask_iff.mpr htarget)

/-- A pass over marked pods that succeeds shows the excluded ones as reached. -/
theorem Ends.showsReached (h : Ends pool (c.exclude test).1 plan matrix world events after)
    (hok : after.result = .ok ()) : ShowsReached c test after.matrix := by
  intro source hsource target htarget htest
  obtain ⟨p, hp, rfl⟩ := List.mem_map.mp hsource
  obtain ⟨q, hq, rfl⟩ := List.mem_map.mp htarget
  let job : Job := ⟨p, q, plan, c.domain⟩
  have hjob : job.excluding test ∈ jobs (c.exclude test).1 plan := by
    rw [jobs_exclude]
    exact List.mem_map_of_mem (List.mem_flatMap.mpr ⟨p, hp, List.mem_map_of_mem hq⟩)
  obtain ⟨o, _, hmem, hkeys, hanswered, hvalue⟩ := h.exists_outcome hok hjob
  -- the outcome is of a pair that is printed alike, so its destination satisfies the test, too
  rw [jobs_exclude] at hmem
  obtain ⟨free, _, hfree⟩ := List.mem_map.mp hmem
  have hexcluded : free.toExcluded test = true := by
    rw [← hfree, Job.keys_excluding, Job.keys_excluding] at hkeys
    have htext : free.target.id.text = q.id.text := congrArg Prod.snd hkeys
    rw [Job.toExcluded, htext]
    exact htest
  have hconnected : o.connected = true :=
    connected_of_skip hanswered (hfree ▸ Job.call_excluding hexcluded)
  rw [Job.keys_excluding, hconnected] at hvalue
  exact hvalue

/-- **Every way in which a pass over marked pods can end heeds the exclusion**, whatever its matrix,
its workers and its prober. -/
theorem Ends.heeds (h : Ends pool (c.exclude test).1 plan matrix world events after) :
    Heeds c test plan events after where
  asked := by
    intro ⟨asked, target⟩
    obtain ⟨last, hrun, _⟩ := h
    rw [mem_queries_iff (queried_run hrun)]
    constructor
    · rintro ⟨hdone, htarget⟩
      have hjob := mem_of_done (conserved_run hrun) hdone
      rw [jobs_exclude] at hjob
      obtain ⟨job, hfree, rfl⟩ := List.mem_map.mp hjob
      rw [Job.target?_excluding] at htarget
      split at htarget
      case isTrue => exact nomatch htarget
      case isFalse hnot => exact ⟨job, hfree, Bool.not_eq_true _ ▸ hnot, rfl, hdone, htarget⟩
    · rintro ⟨job, _, hnot, rfl, hdone, htarget⟩
      rw [Job.target?_excluding, hnot]
      exact ⟨hdone, htarget⟩
  settled := fun hok => jobs_exclude c test plan ▸ (h.complete hok).2.1
  reached := h.showsReached
  same := by
    intro τ pool' matrix' world' events' after' h' job hnot hdone hdone' target
    obtain ⟨last, hrun, _⟩ := h
    obtain ⟨last', hrun', _⟩ := h'
    rw [mem_queries_iff (queried_run hrun), mem_queries_iff (queried_run hrun'),
      Job.target?_excluding, hnot]
    simp [hdone, hdone']
  rest := by
    intro τ pool' matrix' world' events' after' h' hok hok'
    obtain ⟨_, hdone, _⟩ := h.complete hok
    obtain ⟨_, hdone', _⟩ := h'.complete hok'
    obtain ⟨last, hrun, _⟩ := h
    obtain ⟨last', hrun', _⟩ := h'
    -- both have asked about all of their jobs, and those differ in marks only
    have hqueries' : (queries events').Perm ((jobs c plan).filterMap Job.query?) :=
      (queried_run hrun').queries.trans (hdone'.filterMap _)
    have hqueries := (queried_run hrun).queries.trans (hdone.filterMap _)
    rw [jobs_exclude, filterMap_query?_excluding] at hqueries
    exact hqueries.trans ((hqueries'.filter _).map _).symm

end Pass

/-! ## Work that is made of passes -/

/-- Between two worlds the prober was asked in some laps over marked pods and at no other time, and
each lap heeds the exclusion. -/
def Heeded (pool : Pool σ) (c : Cluster) (test : String → Bool) (w₀ w : World σ) : Prop :=
  ∃ laps, Laps pool (c.exclude test).1 w₀ laps w ∧
    w.askedSince w₀ = (laps.flatMap fun lap => targets lap.events) ∧
    ∀ lap ∈ laps, Heeds c test lap.plan lap.events lap.after

theorem Laps.heeded {pool : Pool σ} {laps : List (Lap σ)} {w₀ w : World σ}
    (h : Laps pool (c.exclude test).1 w₀ laps w) : Heeded pool c test w₀ w :=
  ⟨laps, h, h.asked.2, fun lap hlap => (h.made lap hlap).ends.heeds⟩

/-- The matrix that work over marked pods leaves shows the excluded ones as reached. -/
theorem Lapped.showsReached {α : Type} {pool : Pool σ} {laps : List (Lap σ)} {world : World σ}
    {after : After σ α} (h : Lapped pool (c.exclude test).1 world laps after) {a : α}
    (hok : after.result = .ok a) : ShowsReached c test after.matrix := by
  obtain ⟨lap, hlap, hlast, hmatrix⟩ := h.ok a hok
  exact hmatrix ▸ (h.made.made lap hlap).ends.showsReached hlast

/--
**An exclusion lasts through every later pass.**

To exclude the pods that satisfy a test marks those and changes nothing else, and to do it again
changes nothing at all. Every way in which a pass over the marked pods can end heeds it, with any
prober, any workers and any matrix: excluded pods are never asked for and count as reached, and
about the others the same is asked as ever. What a pass asks under a schedule, and a validation, and
a wait for servers, is what is asked in such passes. Where no question kills a worker, such a pass
over the pods of a built matrix succeeds: no worker stops at a pod that it skips.
-/
theorem exclusion_lasts (c : Cluster) (test : String → Bool) :
    c.Excluded test (c.exclude test) ∧
    ∀ {σ : Type} (prober : Prober σ) (workers : Option Nat),
      (∀ plan matrix world events after,
        Ends (Pool.make prober workers) (c.exclude test).1 plan matrix world events after →
          Heeds c test plan events after) ∧
      ∀ (schedule : Nat → Thread) (plan : Plan) (matrix : Matrix) (tries : Nat) (world : World σ),
        let pool := (Pool.make prober workers).under schedule
        let passed := pool.pass (c.exclude test).1 plan matrix world
        let validated := pool.validate (c.exclude test).1 plan matrix world
        let waited := pool.waitReady (c.exclude test).1 tries world
        Heeded pool c test world passed.world ∧
        (passed.result = .ok () → ShowsReached c test passed.matrix) ∧
        (prober.Survivable → matrix.Built → c.ids = matrix.pods → passed.result = .ok ()) ∧
        Heeded pool c test world validated.world ∧
        (∀ n, validated.result = .ok n → ShowsReached c test validated.matrix) ∧
        Heeded pool c test world waited.2 := by
  refine ⟨c.excluded_exclude test, fun prober workers => ⟨fun _ _ _ _ _ h => h.heeds, ?_⟩⟩
  intro schedule plan matrix tries world pool passed validated waited
  obtain ⟨_, hpass⟩ := pool.exists_lapped_pass (c.exclude test).1 plan matrix world
  obtain ⟨_, hvalidate⟩ := pool.exists_lapped_validate (c.exclude test).1 plan matrix world
  obtain ⟨_, hwait⟩ := pool.exists_laps_waitReady (c.exclude test).1 tries world
  have hsucceeds : prober.Survivable → matrix.Built → c.ids = matrix.pods →
      passed.result = .ok () := by
    intro hp hb hids
    obtain ⟨_, hwhole⟩ := exists_whole pool plan world (make_workers_pos prober workers) hp hb
      ((c.ids_exclude test).trans hids)
    exact hwhole.ok
  exact ⟨hpass.made.heeded, fun hok => hpass.showsReached hok, hsucceeds, hvalidate.made.heeded,
    fun _ hok => hvalidate.showsReached hok, hwait.heeded⟩

/-- The first of two pods is excluded, and one worker settles all four pairs. It asks about the
second pod from either, so it goes on after a pair that it skips. -/
theorem exclusion_lasts_on_two_pods :
    let test : String → Bool := fun id => id = "n/a"
    let pool := (Pool.make counting (some 1)).under fun _ => .main
    let passed := pool.pass (twoPods.exclude test).1 {} twoPodsMatrix { memory := 0 }
    (twoPods.exclude test).2.length = 1 ∧ passed.result = .ok () ∧
    ShowsReached twoPods test passed.matrix ∧
    Heeded pool twoPods test { memory := 0 } passed.world ∧
    (passed.world.askedSince { memory := 0 }).map (fun t => (t.source.name, t.address)) =
      [("a", "10.0.0.2"), ("b", "10.0.0.2")] := by
  intro test pool passed
  obtain ⟨hexcluded, hlasts⟩ := exclusion_lasts twoPods test
  obtain ⟨hheeded, hreached, hsucceeds, _⟩ :=
    (hlasts counting (some 1)).2 (fun _ => .main) {} twoPodsMatrix 1 { memory := 0 }
  have hok : passed.result = .ok () :=
    hsucceeds (fun _ _ => Answer.noConfusion) built_twoPodsMatrix rfl
  exact ⟨hexcluded.count, hok, hreached hok, hheeded, by decide +kernel⟩

end PodMesh
