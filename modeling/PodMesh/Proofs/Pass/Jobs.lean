import Mathlib.Data.List.Nodup
import Mathlib.Data.List.ProdSigma
import PodMesh.Pass
import PodMesh.Proofs.Recording

/-!
# The jobs of a pass

There is one job for each ordered pair of pods, a pod with itself included. Over a sound
matrix the pairs are all different, in their identities and in their keys, and every job is
within the matrix. `Job.target?` says in one breath when a job is put to a prober and with
what question.
-/

namespace PodMesh

/-- Every ordered pair of pods, a pod with itself included. -/
def Cluster.pairs (c : Cluster) : List (Identity × Identity) := c.ids ×ˢ c.ids

/-- The pods of a job. -/
def Job.pair (job : Job) : Identity × Identity := (job.source.id, job.target.id)

/-- The question that a job puts to a prober. There is one if the destination is not to be left
alone and an address, a container to ask from and a port are known. -/
def Job.target? (job : Job) : Option Target :=
  if job.target.skipped then none
  else do
    let address ← job.plan.kind.resolve job.target job.plan.protocol job.domain
    let container ← job.source.client?
    let port ← job.port?
    return {
      source := job.source.id, container, address, port
      protocol := job.plan.protocol, check := job.plan.check }

theorem Job.call_eq_ask_iff {job : Job} {target : Target} :
    job.call = .ask target ↔ job.target? = some target := by
  unfold Job.call Job.target? Job.question
  split
  · simp
  · cases job.plan.kind.resolve job.target job.plan.protocol job.domain with
    | none => simp
    | some address =>
      cases job.source.client? with
      | none => simp
      | some container => cases job.port? <;> simp

/-- A question is asked from the source, on the port of the job and over its plan's protocol. -/
theorem Job.target?_eq_some {job : Job} {target : Target} (h : job.target? = some target) :
    target.source = job.source.id ∧ job.port? = some target.port ∧
      target.protocol = job.plan.protocol := by
  unfold Job.target? at h
  split at h
  · exact nomatch h
  · obtain ⟨address, _, h⟩ := Option.bind_eq_some_iff.mp h
    obtain ⟨container, _, h⟩ := Option.bind_eq_some_iff.mp h
    obtain ⟨port, hport, h⟩ := Option.bind_eq_some_iff.mp h
    injection h with h
    subst h
    exact ⟨rfl, hport, rfl⟩

namespace Pass

variable {cluster : Cluster} {plan : Plan} {m : Matrix}

/-- There is one job for each two pods. -/
theorem map_pods_jobs (cluster : Cluster) (plan : Plan) :
    ((jobs cluster plan).map fun job => (job.source, job.target)) =
      cluster.pods ×ˢ cluster.pods := by
  rw [jobs, List.map_flatMap]
  refine List.flatMap_congr fun source _ => ?_
  rw [List.map_map]
  rfl

theorem map_pair_jobs (cluster : Cluster) (plan : Plan) :
    (jobs cluster plan).map Job.pair = cluster.pairs := by
  unfold jobs Cluster.pairs Cluster.ids
  simp [List.map_flatMap, List.flatMap_map, SProd.sprod, List.product, Job.pair,
    Function.comp_def]

/-- There are as many jobs as pairs of pods. -/
theorem length_jobs (cluster : Cluster) (plan : Plan) :
    (jobs cluster plan).length = cluster.pods.length * cluster.pods.length := by
  rw [← List.length_map (f := Job.pair), map_pair_jobs, Cluster.pairs, List.length_product,
    Cluster.ids, List.length_map]

/-- No two pods of a sound matrix have one identity. -/
theorem ids_nodup (hs : m.Sound) (h : cluster.ids = m.pods) : cluster.ids.Nodup :=
  h ▸ List.Nodup.of_map Identity.text hs.keys_nodup

/-- The pairs of pods of a sound matrix are all different. -/
theorem pairs_nodup (hs : m.Sound) (h : cluster.ids = m.pods) : cluster.pairs.Nodup :=
  (ids_nodup hs h).product (ids_nodup hs h)

/-- Jobs over a sound matrix have different keys. -/
theorem keys_nodup (hs : m.Sound) (h : cluster.ids = m.pods) (plan : Plan) :
    ((jobs cluster plan).map Job.keys).Nodup := by
  have hkeys : (jobs cluster plan).map Job.keys = m.keys ×ˢ m.keys := by
    have hprod : Job.keys = Prod.map Identity.text Identity.text ∘ Job.pair := rfl
    rw [hprod, ← List.map_map, map_pair_jobs, Cluster.pairs, h]
    simp [Matrix.keys, SProd.sprod, List.product, List.map_flatMap, List.flatMap_map,
      Function.comp_def]
  rw [hkeys]
  exact hs.keys_nodup.product hs.keys_nodup

theorem plan_of_mem_jobs {job : Job} (hj : job ∈ jobs cluster plan) : job.plan = plan := by
  obtain ⟨source, _, hj⟩ := List.mem_flatMap.mp hj
  obtain ⟨target, _, rfl⟩ := List.mem_map.mp hj
  rfl

/-- A job is about two pods of the cluster. -/
theorem mem_ids_of_mem_jobs {job : Job} (hj : job ∈ jobs cluster plan) :
    job.source.id ∈ cluster.ids ∧ job.target.id ∈ cluster.ids := by
  have hp : job.pair ∈ cluster.pairs := map_pair_jobs cluster plan ▸ List.mem_map_of_mem hj
  exact List.mem_product.mp hp

theorem within_of_mem_jobs (h : cluster.ids = m.pods) {job : Job}
    (hj : job ∈ jobs cluster plan) : job.Within m := by
  rw [Job.Within, ← h]
  exact mem_ids_of_mem_jobs hj

/-! ## Two pods -/

/-- Two pods, the first of which has no address. -/
def twoPods : Cluster :=
  { namespaces := [{
      name := "n"
      pods := [
        { ns := "n", name := "a", containers := [{ port := 80, protocol := .tcp }] },
        { ns := "n", name := "b", containers := [{ port := 80, protocol := .tcp }]
          podIp := some (.v4 #v[10, 0, 0, 2]) }] }]
    domain := "cluster.local" }

/-- A table over the two pods with one value throughout. -/
def twoPodsTable (value : Option Bool) : Table where
  sources := ["n/a", "n/b"]
  targets := ["n/a", "n/b"]
  values := .replicate _ value
  rates := .replicate _ none
  sources_nodup := by decide
  targets_nodup := by decide

/-- The matrix that expects each of the two pods to reach each. -/
def twoPodsMatrix : Matrix := ⟨twoPods.ids, twoPodsTable (some true), twoPodsTable none⟩

theorem built_twoPodsMatrix : twoPodsMatrix.Built :=
  have hmake : Matrix.make twoPods.ids true = .ok twoPodsMatrix := by rfl
  .make hmake

end Pass

end PodMesh
