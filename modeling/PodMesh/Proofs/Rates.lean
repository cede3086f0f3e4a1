import PodMesh.Proofs.Validation

/-!
# Rates outlast their pass

A pass enters a value for every pair, but a rate only for the pairs whose outcome has one
(`Whole.rate_eq`). So a table that was made for a pass shows exactly the rates measured in it
(`Whole.rate_eq_of_make`), and in one that holds rates already, a pair that measured none goes
on showing an older one. A validation uses one table for both of its passes: what it shows
for a pair is the rate that was measured last, be it before the last pass or even before the
first (`validate_shows_latest_rates`).
-/

namespace PodMesh

namespace Table

variable {t : Table} {p q : String}

theorem exists_rate (hp : p ∈ t.sources) (hq : q ∈ t.targets) : ∃ r, t.rate p q = .ok r := by
  obtain ⟨i, hi⟩ := exists_cell hp hq
  exact ⟨_, by rw [rate_eq_map, hi]; rfl⟩

end Table

/-- A new matrix holds no rates. -/
theorem Matrix.rate_make {pods : List Identity} {default : Bool} {m : Matrix}
    {source target : Identity} (h : Matrix.make pods default = .ok m) (hs : source ∈ m.pods)
    (ht : target ∈ m.pods) : m.observed.rate source.text target.text = .ok none := by
  obtain ⟨_, _, hsquare⟩ := make_eq_ok h
  obtain ⟨hsources, htargets, _, hrates⟩ := square_eq_ok hsquare
  obtain ⟨i, hi⟩ := Table.exists_cell (hsources ▸ mem_keys hs) (htargets ▸ mem_keys ht)
  rw [Table.rate_eq_map, hi]
  exact congrArg Except.ok (hrates _ (Vector.getElem_mem i.isLt))

namespace Pass.Whole

variable {σ : Type} {pool : Pool σ} {cluster : Cluster} {plan : Plan} {matrix : Matrix}
  {world : World σ} {events : List Event} {after : After σ Unit} {o : Outcome}
  {old : Option Rate} (h : Whole pool cluster plan matrix world events after)

include h

/-- **After a pass, a pair shows the rate of its outcome, or if there is none the one from
before.** -/
theorem rate_eq (ho : o ∈ recorded events)
    (hold : matrix.observed.rate o.job.keys.1 o.job.keys.2 = .ok old) :
    after.matrix.observed.rate o.job.keys.1 o.job.keys.2 = .ok (o.rate.or old) := by
  rw [h.exact.holds.rate o ho, hold]
  rfl

/-- The rates of a matrix that was made for the pass are those of the pass. -/
theorem rate_eq_of_make {default : Bool} (hmake : Matrix.make cluster.ids default = .ok matrix)
    (ho : o ∈ recorded events) :
    after.matrix.observed.rate o.job.keys.1 o.job.keys.2 = .ok o.rate := by
  have hpods := (Matrix.make_eq_ok hmake).1
  obtain ⟨hsource, htarget⟩ := List.mem_product.mp (h.pair_mem ho)
  have hnone := Matrix.rate_make hmake (hpods ▸ hsource) (hpods ▸ htarget)
  rw [h.rate_eq ho hnone, Option.or_none]

end Pass.Whole

namespace Pool

open Pass

variable {σ : Type} {pool : Pool σ} {cluster : Cluster} {plan : Plan} {matrix : Matrix}
  {world : World σ} {events₁ events : List Event} {first last : After σ Unit}
  {after : After σ Nat} {o₁ o : Outcome} {old : Option Rate}

/-- After a validation a pair shows the rate of its last outcome, else that of its first, else the
one from before. -/
theorem Validated.rate_eq
    (h : Validated pool cluster plan matrix world events₁ first events last after)
    (ho₁ : o₁ ∈ recorded events₁) (ho : o ∈ recorded events) (hkeys : o₁.job.keys = o.job.keys)
    (hold : matrix.observed.rate o.job.keys.1 o.job.keys.2 = .ok old) :
    after.matrix.observed.rate o.job.keys.1 o.job.keys.2 = .ok (o.rate.or (o₁.rate.or old)) := by
  have hfirst : first.matrix.observed.rate o.job.keys.1 o.job.keys.2 =
      .ok (o₁.rate.or old) := by
    rw [← hkeys] at hold ⊢
    exact h.first_whole.rate_eq ho₁ hold
  rw [h.matrix_eq]
  by_cases hmiss : matrix.misses plan.ignoreLoopback (recorded events₁) = []
  · -- there is one pass, and both outcomes are of it
    obtain ⟨rfl, rfl⟩ := h.once hmiss
    have hsame := (h.first_whole.rate_eq ho hold).symm.trans hfirst
    injection hsame with hsame
    rw [hfirst, ← hsame, ← Option.or_assoc, Option.or_self]
  · exact (h.twice hmiss).rate_eq ho hfirst

/--
**After a validation every pair shows the rate that was measured last.**

Let no question kill a worker. Under any schedule, a validation over the pods of a built matrix
leaves for each pair the rate of its outcome in the last pass; if that has none, the rate of
its outcome in the first pass; and if that has none either, the rate from before.
-/
theorem validate_shows_latest_rates (prober : Prober σ) (workers : Option Nat)
    (schedule : Nat → Thread) (plan : Plan) (world : World σ) (hp : prober.Survivable)
    (hb : matrix.Built) (hids : cluster.ids = matrix.pods) :
    let pool := (Pool.make prober workers).under schedule
    let after := pool.validate cluster plan matrix world
    ∃ events₁ first events last,
      Validated pool cluster plan matrix world events₁ first events last after ∧
      ∀ pair ∈ cluster.pairs, ∃ old, ∃ o₁ ∈ recorded events₁, ∃ o ∈ recorded events,
        matrix.observed.rate pair.1.text pair.2.text = .ok old ∧
        o₁.job.pair = pair ∧ o.job.pair = pair ∧
        after.matrix.observed.rate pair.1.text pair.2.text =
          .ok (o.rate.or (o₁.rate.or old)) := by
  intro pool after
  obtain ⟨events₁, first, events, last, h⟩ :=
    exists_validated pool plan world (make_workers_pos prober workers) hp hb hids
  refine ⟨events₁, first, events, last, h, fun pair hpair => ?_⟩
  have hs := hb.sound
  obtain ⟨hsource, htarget⟩ := List.mem_product.mp hpair
  rw [hids] at hsource htarget
  obtain ⟨old, hold⟩ := Table.exists_rate (hs.observed_sources ▸ Matrix.mem_keys hsource)
    (hs.observed_targets ▸ Matrix.mem_keys htarget)
  obtain ⟨o₁, ho₁, hp₁, _⟩ := h.first_whole.exists_outcome hpair
  obtain ⟨o, ho, rfl, _⟩ := h.observed pair hpair
  have hkeys : o₁.job.keys = o.job.keys :=
    congrArg (Prod.map Identity.text Identity.text) hp₁
  exact ⟨old, o₁, ho₁, o, ho, hold, hp₁, rfl, h.rate_eq ho₁ ho hkeys hold⟩

/-- A prober that fails the first time and measures a rate nonetheless, and then reaches everything
and measures nothing. -/
def losingTouch : Prober Bool where
  ask := fun fresh _ =>
    (.reading { connected := !fresh, rate := if fresh then some ⟨.ofNat 8000000⟩ else none } [],
      false)

/-- Once asked it measures nothing any more. -/
theorem answers_losingTouch : ∀ targets, ∀ answer ∈ losingTouch.answers false targets,
    answer = .reading { connected := true } []
  | [], _, h => nomatch h
  | _ :: rest, _, h => by
      rcases List.mem_cons.mp h with rfl | h
      · rfl
      · exact answers_losingTouch rest _ h

/-- The second pass of this validation measures no rate, but the one from the first is there, and is
shown with the verdict. -/
theorem validate_shows_rate_of_first_try : ∃ events₁ first events last,
    Validated ((Pool.make losingTouch (some 1)).under fun _ => .main) twoPods
      { check := .bandwidth } twoPodsMatrix { memory := true } events₁ first events last
      (((Pool.make losingTouch (some 1)).under fun _ => .main).validate twoPods
        { check := .bandwidth } twoPodsMatrix { memory := true }) ∧
    twoPodsMatrix.misses true (recorded events₁) ≠ [] ∧
    (∀ o ∈ recorded events, o.rate = none) ∧
    (((Pool.make losingTouch (some 1)).under fun _ => .main).validate twoPods
      { check := .bandwidth } twoPodsMatrix
        { memory := true }).matrix.observed.rate "n/a" "n/b" = .ok (some ⟨.ofNat 8000000⟩) ∧
    .said (.grid "bandwidth" "-\t\tn/a\tn/b\nn/a\tX\t\t1.00 MBytes/sec\t\nn/b\tX\t\tX\t") ∈
      (((Pool.make losingTouch (some 1)).under fun _ => .main).validate twoPods
        { check := .bandwidth } twoPodsMatrix { memory := true }).world.journal := by
  obtain ⟨events₁, first, events, last, h⟩ :=
    exists_validated ((Pool.make losingTouch (some 1)).under fun _ => .main)
      { check := .bandwidth } { memory := true } Nat.one_pos (fun _ _ => Answer.noConfusion)
      built_twoPodsMatrix (rfl : twoPods.ids = twoPodsMatrix.pods)
  have hmiss : twoPodsMatrix.misses true (recorded events₁) ≠ [] := by
    intro hnil
    obtain ⟨rfl, rfl⟩ := h.once hnil
    have hzero := h.result_eq
    rw [show Plan.ignoreLoopback { check := .bandwidth } = true from rfl, hnil] at hzero
    exact absurd hzero (by decide)
  -- the first pass asked, and so the second measures nothing
  have hmemory : first.world.memory = false := by
    rw [← h.first_whole.pass]
    rfl
  refine ⟨events₁, first, events, last, h, hmiss, fun o ho => ?_, by rfl, by decide +kernel⟩
  have hexact := (h.twice hmiss).exact
  rcases hexact.answered o ho with
    (⟨_, ho⟩ | ⟨_, _, ho⟩) | ⟨_, reading, notices, _, hcall, ho⟩
  · rw [ho]
    rfl
  · rw [ho]
    rfl
  · have hans : .reading reading notices ∈ losingTouch.answers false (targets events) := by
      have htold := hexact.told.answers
      rw [show (first.world.say _).memory = false from hmemory] at htold
      exact htold ▸ List.mem_map_of_mem (f := (·.2.2)) hcall
    have hreading := answers_losingTouch _ _ hans
    injection hreading with hreading _
    rw [ho, hreading]
    rfl

end Pool

end PodMesh
