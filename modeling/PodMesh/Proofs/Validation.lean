import PodMesh.Proofs.Pass.Independence
import PodMesh.Proofs.Pass.Whole
import PodMesh.Validation

/-!
# A validation judges its last pass

A validation makes one whole pass, and a second one over what the first left if any pair that
counts had the wrong outcome. Nothing of the first pass is left in the values after the
second, since each pair has its outcome there too. The same rule says whether to try again
and what to count at the end: the outcomes of the pass just made that missed what was
expected (`Matrix.misses`).
-/

namespace PodMesh

namespace Pool

open Pass

variable {σ : Type} {pool : Pool σ} {cluster : Cluster} {plan : Plan} {matrix : Matrix}
  {world : World σ}

/-- What a validation leaves, by its last pass. -/
structure Judged (cluster : Cluster) (plan : Plan) (matrix : Matrix) (events : List Event)
    (last : After σ Unit) (after : After σ Nat) : Prop where
  /-- The matrix is as the last pass left it. -/
  matrix_eq : after.matrix = last.matrix
  /-- After the last pass there are only words. -/
  world_eq : ∃ notices, after.world = last.world.say notices
  /-- The count is of the outcomes of the last pass that missed. -/
  result_eq : after.result =
    .ok (matrix.misses plan.ignoreLoopback (recorded events)).length
  /-- It is zero when every pair that counts had the outcome that was expected of it. -/
  zero_iff : after.result = .ok 0 ↔ ∀ o ∈ recorded events,
    (plan.ignoreLoopback = true → o.job.source.id ≠ o.job.target.id) →
    matrix.expectation o.job.source.id o.job.target.id = .ok o.connected
  /-- The expectations stay. -/
  expected_eq : after.matrix.expected = matrix.expected
  /-- Every pair shows its outcome of the last pass. -/
  observed : ∀ pair ∈ cluster.pairs, ∃ o ∈ recorded events, o.job.pair = pair ∧
    after.matrix.observed.value pair.1.text pair.2.text = .ok (some o.connected)

/-- What a validation comes to, by its first pass and its last. -/
structure Validated (pool : Pool σ) (cluster : Cluster) (plan : Plan) (matrix : Matrix)
    (world : World σ) (events₁ : List Event) (first : After σ Unit) (events : List Event)
    (last : After σ Unit) (after : After σ Nat) : Prop extends
    Judged cluster plan matrix events last after where
  /-- There is a whole first pass. -/
  first_whole : Whole pool cluster plan matrix (world.say [.firstTry]) events₁ first
  /-- If no outcome missed in it, it is the last. -/
  once : matrix.misses plan.ignoreLoopback (recorded events₁) = [] →
    events = events₁ ∧ last = first
  /-- If any outcome missed, the last is a whole second pass over what the first left. -/
  twice : matrix.misses plan.ignoreLoopback (recorded events₁) ≠ [] →
    Whole pool cluster plan first.matrix (first.world.say
      [.secondTry (matrix.misses plan.ignoreLoopback (recorded events₁)).length]) events last
  /-- The prober is asked in these passes and at no other time. -/
  asked : after.world.askedSince world = targets events₁ ++
    if matrix.misses plan.ignoreLoopback (recorded events₁) = [] then [] else targets events
  /-- If the prober answers by the question alone, the last pass observes what the first did. -/
  repeated : (∃ reading, pool.prober.AnswersBy reading) →
    (∀ p q, after.matrix.observed.value p q = first.matrix.observed.value p q) ∧
    after.result = .ok (matrix.misses plan.ignoreLoopback (recorded events₁)).length

/-! ## Steps of a validation -/

/-- The verdict on a sound matrix counts its wrong pairs, and changes nothing. -/
theorem verdict_eq (hs : matrix.Sound) (plan : Plan) (world : World σ) : ∃ notices,
    verdict plan matrix world =
      ⟨.ok (matrix.wrong plan.ignoreLoopback).length, matrix, world.say notices⟩ := by
  obtain ⟨t, notices, ht, hwrong⟩ :=
    hs.report_eq plan.ignoreLoopback (Grids.forCheck plan.check)
  unfold verdict
  rw [ht, ← hwrong]
  exact ⟨_, rfl⟩

/-- A validation whose passes succeed comes to the verdict on what the last one left. -/
theorem validate_eq {first last : After σ Unit} {tally : Tally}
    (h₁ : pool.pass cluster plan matrix (world.say [.firstTry]) = first)
    (hok₁ : first.result = .ok ())
    (ht : first.matrix.tally plan.ignoreLoopback = .ok (tally, []))
    (h : pool.retry cluster plan tally.incorrect first.matrix first.world = last)
    (hok : last.result = .ok ()) :
    pool.validate cluster plan matrix world = verdict plan last.matrix last.world := by
  obtain ⟨result₁, matrix₁, world₁⟩ := first
  obtain ⟨result, matrix', world'⟩ := last
  subst hok₁
  subst hok
  unfold validate
  rw [h₁]
  dsimp only at ht h ⊢
  rw [ht]
  dsimp only
  rw [World.say_nil, h]

/-- **A verdict after a whole pass judges that pass.** -/
theorem judged_verdict {before : Matrix} {events : List Event} {last : After σ Unit}
    (h : Whole pool cluster plan before world events last) (hb : before.Built)
    (hids : cluster.ids = before.pods) (hexp : before.expected = matrix.expected) :
    Judged cluster plan matrix events last (verdict plan last.matrix last.world) := by
  obtain ⟨notices, hverdict⟩ := verdict_eq (h.built hb).sound plan last.world
  have hmisses : before.misses plan.ignoreLoopback (recorded events) =
      matrix.misses plan.ignoreLoopback (recorded events) := by
    unfold Matrix.misses Matrix.expected?
    rw [hexp]
  rw [h.length_wrong hids, hmisses] at hverdict
  rw [hverdict]
  exact {
    matrix_eq := rfl
    world_eq := ⟨notices, rfl⟩
    result_eq := rfl
    zero_iff := by rw [← Matrix.length_misses_eq_zero_iff, Except.ok.injEq]
    expected_eq := h.expected_eq.trans hexp
    observed := fun _ => h.exists_outcome }

/-- A second pass with the outcomes of the first changes no value. -/
theorem value_eq_of_perm {world₁ : World σ} {events₁ events : List Event}
    {first last : After σ Unit} (h₁ : Whole pool cluster plan matrix world₁ events₁ first)
    (h : Whole pool cluster plan first.matrix world events last)
    (hperm : (recorded events).Perm (recorded events₁)) (p q : String) :
    last.matrix.observed.value p q = first.matrix.observed.value p q := by
  by_cases hpq : (p, q) ∈ (recorded events).map (·.job.keys)
  · obtain ⟨o, ho, hk⟩ := List.mem_map.mp hpq
    obtain ⟨rfl, rfl⟩ := Prod.mk.inj hk
    exact (h.exact.holds.value o ho).trans
      (h₁.exact.holds.value o (hperm.mem_iff.mp ho)).symm
  · exact h.exact.holds.other_value p q hpq

/-- A first pass in which nothing missed is also the last. -/
theorem validated_once {events₁ : List Event} {first : After σ Unit}
    (h₁ : Whole pool cluster plan matrix (world.say [.firstTry]) events₁ first)
    (hb : matrix.Built) (hids : cluster.ids = matrix.pods)
    (hmiss : matrix.misses plan.ignoreLoopback (recorded events₁) = []) :
    Validated pool cluster plan matrix world events₁ first events₁ first
      (verdict plan first.matrix first.world) := by
  have hj := judged_verdict h₁ hb hids rfl
  obtain ⟨hgrown, hasked⟩ := h₁.askedSince_eq (List.prefix_refl _)
  obtain ⟨notices, hworld⟩ := hj.world_eq
  exact {
    toJudged := hj
    first_whole := h₁
    once := fun _ => ⟨rfl, rfl⟩
    twice := fun hne => absurd hmiss hne
    asked := by
      rw [if_pos hmiss, List.append_nil, hworld, World.askedSince_say hgrown, hasked,
        World.askedSince_self, List.nil_append]
    repeated := fun _ => ⟨fun _ _ => by rw [hj.matrix_eq], hj.result_eq⟩ }

/-- A first pass in which something missed is followed by the last. -/
theorem validated_twice {events₁ events : List Event} {first last : After σ Unit}
    (h₁ : Whole pool cluster plan matrix (world.say [.firstTry]) events₁ first)
    (hb : matrix.Built) (hids : cluster.ids = matrix.pods)
    (hmiss : matrix.misses plan.ignoreLoopback (recorded events₁) ≠ [])
    (h : Whole pool cluster plan first.matrix (first.world.say
      [.secondTry (matrix.misses plan.ignoreLoopback (recorded events₁)).length]) events last) :
    Validated pool cluster plan matrix world events₁ first events last
      (verdict plan last.matrix last.world) := by
  have hj := judged_verdict h (h₁.built hb) (hids.trans h₁.pods_eq.symm) h₁.expected_eq
  obtain ⟨hgrown₁, hasked₁⟩ := h₁.askedSince_eq (List.prefix_refl _)
  obtain ⟨hgrown, hasked⟩ := h.askedSince_eq hgrown₁
  obtain ⟨notices, hworld⟩ := hj.world_eq
  exact {
    toJudged := hj
    first_whole := h₁
    once := fun hnil => absurd hnil hmiss
    twice := fun _ => h
    asked := by
      rw [if_neg hmiss, hworld, World.askedSince_say hgrown, hasked, hasked₁,
        World.askedSince_self, List.nil_append]
    repeated := by
      rintro ⟨reading, hp⟩
      have hperm : (recorded events).Perm (recorded events₁) :=
        (recorded_perm hp h.exact).trans (recorded_perm hp h₁.exact).symm
      refine ⟨fun p q => ?_, ?_⟩
      · rw [hj.matrix_eq]
        exact value_eq_of_perm h₁ h hperm p q
      · rw [hj.result_eq, Matrix.length_misses_of_perm hperm] }

/-- **A validation comes to one or two whole passes if its prober kills nobody.** -/
theorem exists_validated (pool : Pool σ) (plan : Plan) (world : World σ) (hcrew : 0 < pool.workers)
    (hp : pool.prober.Survivable) (hb : matrix.Built) (hids : cluster.ids = matrix.pods) :
    ∃ events₁ first events last, Validated pool cluster plan matrix world events₁ first events last
      (pool.validate cluster plan matrix world) := by
  obtain ⟨events₁, h₁⟩ := exists_whole pool plan (world.say [.firstTry]) hcrew hp hb hids
  generalize hfirst : pool.pass cluster plan matrix (world.say [.firstTry]) = first at h₁
  have hb₁ := h₁.built hb
  obtain ⟨tally, htally, hincorrect⟩ := hb₁.sound.tally_eq plan.ignoreLoopback
  rw [h₁.length_wrong hids] at hincorrect
  -- what is counted as incorrect are the misses, so they decide whether there is a second pass
  by_cases hmiss : matrix.misses plan.ignoreLoopback (recorded events₁) = []
  · have hretry : pool.retry cluster plan tally.incorrect first.matrix first.world = first := by
      rw [hincorrect, hmiss]
      exact h₁.eq_ok.symm
    refine ⟨events₁, first, events₁, first, ?_⟩
    rw [validate_eq hfirst h₁.ok htally hretry h₁.ok]
    exact validated_once h₁ hb hids hmiss
  · obtain ⟨events, h⟩ := exists_whole pool plan (first.world.say
      [.secondTry (matrix.misses plan.ignoreLoopback (recorded events₁)).length]) hcrew hp hb₁
      (hids.trans h₁.pods_eq.symm)
    generalize hlast : pool.pass cluster plan first.matrix _ = last at h
    have hretry : pool.retry cluster plan tally.incorrect first.matrix first.world = last := by
      rw [hincorrect, ← hlast]
      exact if_neg fun hz => hmiss (List.eq_nil_of_length_eq_zero hz)
    refine ⟨events₁, first, events, last, ?_⟩
    rw [validate_eq hfirst h₁.ok htally hretry h.ok]
    exact validated_twice h₁ hb hids hmiss h

/--
**A validation makes one or two whole passes, and judges the last.**

Let no question kill a worker. Under any schedule, a validation over the pods of a built matrix
succeeds. It makes a second pass exactly if some pair that counts had the wrong outcome in
the first, and never a third. Every value it leaves is of its last pass, and it counts the
pairs whose outcome in that pass was not the expected one.
-/
theorem validate_judges_last_pass (prober : Prober σ) (workers : Option Nat)
    (schedule : Nat → Thread) {cluster : Cluster} (plan : Plan) {matrix : Matrix}
    (world : World σ) (hp : prober.Survivable) (hb : matrix.Built)
    (hids : cluster.ids = matrix.pods) :
    let pool := (Pool.make prober workers).under schedule
    ∃ events₁ first events last, Validated pool cluster plan matrix world events₁ first events last
      (pool.validate cluster plan matrix world) :=
  exists_validated _ plan world (make_workers_pos prober workers) hp hb hids

/-- The first question of the first pass fails and no other does, so that pass missed two pairs
and the second one only the pair without an address. -/
theorem validate_judges_last_pass_on_two_pods : ∃ events₁ first events last,
    Validated ((Pool.make flaky (some 1)).under fun _ => .main) twoPods {} twoPodsMatrix
      { memory := 1 } events₁ first events last
      (((Pool.make flaky (some 1)).under fun _ => .main).validate twoPods {} twoPodsMatrix
        { memory := 1 }) ∧
    (((Pool.make flaky (some 1)).under fun _ => .main).validate twoPods {} twoPodsMatrix
        { memory := 1 }).result = .ok 1 := by
  obtain ⟨events₁, first, events, last, h⟩ :=
    validate_judges_last_pass flaky (some 1) (fun _ => .main) {} { memory := 1 }
      (fun _ _ => Answer.noConfusion) built_twoPodsMatrix rfl
  exact ⟨events₁, first, events, last, h, by rfl⟩

end Pool

end PodMesh
