import PodMesh.CommandLine.Run
import PodMesh.Proofs.Cluster.Exclusion
import PodMesh.Proofs.Policy
import PodMesh.Proofs.Validation

/-!
# What a check concludes

A check loads a cluster, leaves some of its pods alone, waits for servers if it is asked to,
and validates what its policy expects. Leaving pods alone changes no identity, and waiting
changes no expectation, so the validation is over the matrix of the policy and over every
pair of the loaded cluster. Its count is that of the pairs whose outcome in the last pass is
not what the policy expects, and the check is clean if there are none (`Concluded`).
-/

namespace PodMesh

/-- Leaving pods alone changes no identity. -/
theorem Cluster.ids_excluding (c : Cluster) (test : Option (String → Bool)) :
    (c.excluding test).1.ids = c.ids := by
  cases test with
  | none => rfl
  | some test => exact ids_exclude c test

namespace Pool

open Pass

variable {σ : Type} {pool : Pool σ} {cluster : Cluster} {plan : Plan} {matrix : Matrix}
  {world : World σ} {events₁ events : List Event} {first last : After σ Unit}
  {after : After σ Nat} {inquiry : Inquiry} {notices : List Notice}

/-- The last pass of a validation is whole, be it the first or the second. -/
theorem Validated.exists_last_whole
    (h : Validated pool cluster plan matrix world events₁ first events last after) :
    ∃ before start, Whole pool cluster plan before start events last := by
  by_cases hmiss : matrix.misses plan.ignoreLoopback (recorded events₁) = []
  · obtain ⟨rfl, rfl⟩ := h.once hmiss
    exact ⟨_, _, h.first_whole⟩
  · exact ⟨_, _, h.twice hmiss⟩

/-- An inquiry that has waited validates what its policy expects. -/
theorem inquire_eq {waited : World σ}
    (hwait : pool.await cluster inquiry.tries world = (.ok (), waited))
    (hpolicy : Matrix.ofPolicy cluster.ids inquiry.policy = .ok (matrix, notices)) :
    (pool.inquire cluster inquiry world).1 =
      (pool.validate cluster inquiry.plan matrix (waited.say notices)).result := by
  rw [inquire, hwait, hpolicy]

end Pool

namespace CommandLine

open Pass

variable {σ : Type} {policy : Policy} {ignoreLoopback : Bool} {outcomes : List Outcome}

/-- The outcomes of pairs that count which are not what a policy expects. -/
def unexpected (policy : Policy) (ignoreLoopback : Bool) (outcomes : List Outcome) :
    List Outcome :=
  outcomes.filter fun o =>
    Matrix.counts ignoreLoopback o.job.pair && o.connected ≠ policy.expects o.job.pair

/-- The result of a check by the outcomes that it judges. -/
structure Concluded (policy : Policy) (ignoreLoopback : Bool)
    (pairs : List (Identity × Identity)) (outcomes : List Outcome)
    (result : Except RunFault Unit) : Prop where
  /-- There is one outcome for each ordered pair. -/
  outcomes_pairs : (outcomes.map (·.job.pair)).Perm pairs
  /-- The check is clean if every pair that counts has the outcome that is expected of it. -/
  ok_iff : result = .ok () ↔ ∀ o ∈ outcomes,
    (ignoreLoopback = true → o.job.source.id ≠ o.job.target.id) →
    o.connected = policy.expects o.job.pair
  /-- Otherwise it tells how many have not. -/
  error : result ≠ .ok () →
    result = .error (.wrong (unexpected policy ignoreLoopback outcomes).length)

theorem unexpected_eq_nil_iff : unexpected policy ignoreLoopback outcomes = [] ↔
    ∀ o ∈ outcomes, (ignoreLoopback = true → o.job.source.id ≠ o.job.target.id) →
      o.connected = policy.expects o.job.pair := by
  rw [unexpected, List.filter_eq_nil_iff]
  refine forall₂_congr fun o _ => ?_
  rw [Bool.and_eq_true, decide_eq_true_iff, Matrix.counts_iff, not_and, Classical.not_not]
  rfl

/-- Where a matrix expects what a policy does, the outcomes that miss are the unexpected ones. -/
theorem misses_eq_unexpected {m : Matrix}
    (h : ∀ o ∈ outcomes,
      m.expectation o.job.source.id o.job.target.id = .ok (policy.expects o.job.pair)) :
    m.misses ignoreLoopback outcomes = unexpected policy ignoreLoopback outcomes := by
  refine List.filter_congr fun o ho => ?_
  have hexp : m.expected? o.job.pair = some (policy.expects o.job.pair) :=
    Matrix.expectation_eq_ok_iff.mp (h o ho)
  simp only [hexp, ne_eq, Option.some.injEq]

/-- A count of unexpected outcomes is a conclusion from them. -/
theorem concluded_conclusion {pairs : List (Identity × Identity)} {finding : Finding}
    (hpairs : (outcomes.map (·.job.pair)).Perm pairs)
    (hfinding : finding = .ok (unexpected policy ignoreLoopback outcomes).length) :
    Concluded policy ignoreLoopback pairs outcomes (conclusion finding) := by
  have hnil : conclusion finding = .ok () ↔ unexpected policy ignoreLoopback outcomes = [] := by
    rw [hfinding, ← List.length_eq_zero_iff]
    cases (unexpected policy ignoreLoopback outcomes).length <;> simp [conclusion]
  refine ⟨hpairs, hnil.trans unexpected_eq_nil_iff, fun hne => ?_⟩
  rw [hfinding] at hne ⊢
  generalize (unexpected policy ignoreLoopback outcomes).length = n at hne ⊢
  cases n with
  | zero => exact absurd rfl hne
  | succ n => rfl

/-- **An inquiry that has waited concludes from the outcomes of its last pass.** -/
theorem exists_concluded (pool : Pool σ) {cluster : Cluster} {inquiry : Inquiry}
    {world waited : World σ} (hcrew : 0 < pool.workers) (hp : pool.prober.Survivable)
    (hids : (cluster.ids.map Identity.text).Nodup)
    (hwait : pool.await cluster inquiry.tries world = (.ok (), waited)) :
    ∃ matrix notices events₁ first events last,
      Matrix.ofPolicy cluster.ids inquiry.policy = .ok (matrix, notices) ∧
      (∀ pair ∈ cluster.pairs,
        matrix.expectation pair.1 pair.2 = .ok (inquiry.policy.expects pair)) ∧
      Pool.Validated pool cluster inquiry.plan matrix (waited.say notices) events₁ first
        events last (pool.validate cluster inquiry.plan matrix (waited.say notices)) ∧
      Concluded inquiry.policy inquiry.plan.ignoreLoopback cluster.pairs (recorded events)
        (conclusion (pool.inquire cluster inquiry world).1) := by
  obtain ⟨matrix, notices, hpolicy, hb, hpods, hexpects⟩ :=
    Matrix.exists_ofPolicy hids inquiry.policy
  obtain ⟨events₁, first, events, last, h⟩ :=
    Pool.exists_validated pool inquiry.plan (waited.say notices) hcrew hp hb hpods.symm
  obtain ⟨before, start, hwhole⟩ := h.exists_last_whole
  -- the outcomes are of the cluster's pairs, so the policy expects something of each
  have hmisses : matrix.misses inquiry.plan.ignoreLoopback (recorded events) =
      unexpected inquiry.policy inquiry.plan.ignoreLoopback (recorded events) :=
    misses_eq_unexpected fun o ho => hexpects o.job.pair (hwhole.pair_mem ho)
  have hfinding : (pool.inquire cluster inquiry world).1 =
      .ok (unexpected inquiry.policy inquiry.plan.ignoreLoopback (recorded events)).length := by
    rw [Pool.inquire_eq hwait hpolicy, h.result_eq, hmisses]
  exact ⟨matrix, notices, events₁, first, events, last, hpolicy, hexpects, h,
    concluded_conclusion hwhole.exact.recorded_pairs hfinding⟩

namespace Settings

/-- For each configuration, a prober shared by the workers of the settings, under a schedule. -/
def pool (s : Settings) (prober : Kubectl.Config → Prober σ) (schedule : Nat → Thread)
    (config : Kubectl.Config) : Pool σ :=
  (Pool.make (prober config) (some s.workers)).under schedule

section Equations

variable {s : Settings} {pool : Kubectl.Config → Pool σ} {memory : σ} {files : Host.Files}
  {cluster : Cluster} {test : Option (String → Bool)} {config : Kubectl.Config}

/-- With a pattern and a command line that can be read, a check of a cluster comes to what its
inquiry finds. -/
theorem checkCluster_eq (htest : s.exclusion = .ok test)
    (hconfig : Kubectl.Config.ofWords s.kubectl s.context s.limit = .ok config) :
    (s.checkCluster pool memory cluster).1 = conclusion
      ((pool config).inquire (cluster.excluding test).1 s.inquiry { memory }).1 := by
  unfold checkCluster
  rw [htest]
  dsimp only
  rw [hconfig]

/-- A check of a file that a cluster can be loaded from is a check of the cluster. -/
theorem check_eq (hload : (Cluster.load files s.model).1 = .ok cluster) :
    (s.check pool memory files).1 = (s.checkCluster pool memory cluster).1 := by
  unfold check
  cases hloaded : Cluster.load files s.model with
  | mk loaded notices =>
    rw [hloaded] at hload
    dsimp only at hload
    rw [hload]

end Equations

/--
**A check is clean exactly if every pair is as its policy expects.**

Let no question kill a worker, and let the cluster of the model file have pods that are printed
differently. If waiting succeeds, when it is asked for, the check validates a matrix in which
whatever a rule denies is not expected, else whatever a rule allows is, and the rest is as
the default says, in whatever order the rules are given. It is clean if each pair that counts
had that outcome in the last pass, and else it fails with the number of pairs that had not.
-/
theorem check_follows_policy (s : Settings) (prober : Kubectl.Config → Prober σ)
    (schedule : Nat → Thread) (memory : σ) {files : Host.Files} {cluster : Cluster}
    {test : Option (String → Bool)} {config : Kubectl.Config} {world : World σ}
    (hp : (prober config).Survivable)
    (hload : (Cluster.load files s.model).1 = .ok cluster)
    (hids : (cluster.ids.map Identity.text).Nodup)
    (htest : s.exclusion = .ok test)
    (hconfig : Kubectl.Config.ofWords s.kubectl s.context s.limit = .ok config)
    (hwait : (s.pool prober schedule config).await (cluster.excluding test).1 s.inquiry.tries
      { memory } = (.ok (), world)) :
    let policy := s.inquiry.policy
    let plan := s.inquiry.plan
    let pool := s.pool prober schedule
    let probed := (cluster.excluding test).1
    ∃ matrix notices events₁ first events last,
      Matrix.ofPolicy cluster.ids policy = .ok (matrix, notices) ∧
      (∀ pair ∈ cluster.pairs, matrix.expectation pair.1 pair.2 = .ok (policy.expects pair)) ∧
      (∀ allow deny : List Rule, allow.Perm policy.allow → deny.Perm policy.deny →
        Policy.expects { policy with allow, deny } = policy.expects) ∧
      Pool.Validated (pool config) probed plan matrix (world.say notices) events₁ first
        events last ((pool config).validate probed plan matrix (world.say notices)) ∧
      Concluded policy plan.ignoreLoopback cluster.pairs (recorded events)
        (s.check pool memory files).1 := by
  have hprobed := cluster.ids_excluding test
  obtain ⟨matrix, notices, events₁, first, events, last, hpolicy, hexpects, h, hconcluded⟩ :=
    exists_concluded (s.pool prober schedule config)
      (make_workers_pos (prober config) (some s.workers)) hp (hprobed.symm ▸ hids) hwait
  rw [Cluster.pairs, hprobed] at hexpects hconcluded
  rw [hprobed] at hpolicy
  refine ⟨matrix, notices, events₁, first, events, last, hpolicy, hexpects,
    fun allow deny => Policy.expects_perm, h, ?_⟩
  rw [check_eq hload, checkCluster_eq htest hconfig]
  exact hconcluded

/-- Two pods that serve one port. -/
def twoServers : Cluster :=
  { namespaces := [{
      name := "n"
      pods := [
        { ns := "n", name := "a", containers := [{ port := 80, protocol := .tcp }]
          podIp := some (.v4 #v[10, 0, 1, 1]) },
        { ns := "n", name := "b", containers := [{ port := 80, protocol := .tcp }]
          podIp := some (.v4 #v[10, 0, 1, 2]) }] }]
    domain := "cluster.local" }

/-- The files of a host with a model file of the two pods. -/
def modelFiles : Host.Files :=
  Host.Files.ofCurrent [("model.json", Text.encode (Cluster.record.format.write twoServers))] []

/-- A check that waits for servers, leaves the second pod alone, and denies whatever it allows to
reach the first. -/
def denyingFirst : Settings where
  model := "model.json"
  inquiry := {
    policy := {
      default := false
      allow := [⟨Peer.any, { ns := some "n" }⟩]
      deny := [⟨Peer.any, { ns := some "n", pod := some "a" }⟩] }
    tries := some 2 }
  excluded := some "/b$"
  workers := 2
  kubectl := ["kubectl"]
  context := none
  limit := .ofSeconds 10
  level := .info

set_option maxRecDepth 100000 in
/-- The prober fails once, so the second try finds the server ready. Of the two pairs that count the
one from the second pod to the first connects, and should not. -/
theorem check_follows_policy_on_two_servers :
    ∃ events, Concluded denyingFirst.inquiry.policy true twoServers.pairs (recorded events)
      (denyingFirst.check (denyingFirst.pool (fun _ => flaky) fun tick => .worker (tick % 2)) 1
        modelFiles).1 ∧
    (denyingFirst.check (denyingFirst.pool (fun _ => flaky) fun tick => .worker (tick % 2)) 1
      modelFiles).1 = .error (.wrong 1) := by
  have hload : (Cluster.load modelFiles denyingFirst.model).1 = .ok twoServers := by
    decide +kernel
  obtain ⟨test, htest⟩ : ∃ test, denyingFirst.exclusion = .ok test :=
    ⟨denyingFirst.exclusion.toOption.join, by rfl⟩
  have hready : (((Pool.make flaky (some 2)).under fun tick => .worker (tick % 2)).await
      (twoServers.excluding denyingFirst.exclusion.toOption.join).1 (some 2)
        { memory := 1 }).1 = .ok () := by decide +kernel
  rw [htest] at hready
  obtain ⟨_, _, _, _, events, _, _, _, _, _, hconcluded⟩ :=
    check_follows_policy denyingFirst (fun _ => flaky) (fun tick => .worker (tick % 2)) 1
      (fun _ _ => Answer.noConfusion) hload (by decide) htest rfl (Prod.ext hready rfl)
  exact ⟨events, hconcluded, by decide +kernel⟩

end Settings

end CommandLine

end PodMesh
