import Mathlib.Data.List.Forall2
import PodMesh.Cluster

/-!
# Excluding pods

To exclude pods is to mark those whose printed identity satisfies a test, so that probes leave them
alone. Nothing else changes: the pods stay in their places, with their identities and all that is
known of them, and a mark that was there before stays (`Cluster.Marked`). That much determines the
cluster (`Cluster.marked_iff`). Where every such pod is marked already there is nothing left to
change, so excluding twice is excluding once.
-/

namespace PodMesh

variable {test : String → Bool}

/-! ## Marks -/

/-- The pod as it is once all that satisfy a test are excluded. -/
def Pod.excluding (p : Pod) (test : String → Bool) : Pod :=
  if test p.id.text then { p with skipped := true } else p

/-- A pod may have been marked, and is otherwise as it was. -/
structure Pod.Marked (test : String → Bool) (p p' : Pod) : Prop where
  /-- It is left alone if it was before, or if its printed identity satisfies the test. -/
  skipped_iff : p'.skipped = true ↔ p.skipped = true ∨ test p.id.text = true
  /-- All that is known of it stays. -/
  same : { p' with skipped := p.skipped } = p

/-- Each pod of a namespace is marked or not, and in its place. -/
structure Namespace.Marked (test : String → Bool) (n n' : Namespace) : Prop where
  name_eq : n'.name = n.name
  pods : List.Forall₂ (Pod.Marked test) n.pods n'.pods

/-- Each pod of a cluster is marked or not, and in its place. -/
structure Cluster.Marked (test : String → Bool) (c c' : Cluster) : Prop where
  domain_eq : c'.domain = c.domain
  namespaces : List.Forall₂ (Namespace.Marked test) c.namespaces c'.namespaces

namespace Pod

variable {p p' : Pod}

@[simp] theorem id_excluding (p : Pod) (test : String → Bool) : (p.excluding test).id = p.id := by
  unfold excluding
  split <;> rfl

theorem skipped_excluding (p : Pod) (test : String → Bool) :
    (p.excluding test).skipped = (p.skipped || test p.id.text) := by
  unfold excluding
  split
  · simp [*]
  · simp [*]

theorem excluding_of_not {p : Pod} (h : test p.id.text = false) : p.excluding test = p := by
  rw [excluding, h]
  rfl

/-- A pod that is left alone anyway need not be marked. -/
theorem excluding_eq_self (h : test p.id.text = true → p.skipped = true) :
    p.excluding test = p := by
  cases htest : test p.id.text with
  | false => exact excluding_of_not htest
  | true =>
    obtain ⟨ns, name, containers, node, podIp, hostIp, clusterIp, externalIps, service,
      servicePort, skipped⟩ := p
    obtain rfl : skipped = true := h htest
    exact if_pos htest

theorem marked_excluding (p : Pod) (test : String → Bool) : p.Marked test (p.excluding test) where
  skipped_iff := by rw [skipped_excluding, Bool.or_eq_true]
  same := by
    unfold excluding
    split <;> rfl

/-- There is one way for a pod to be marked. -/
theorem Marked.eq_excluding (h : p.Marked test p') : p' = p.excluding test := by
  have hskipped : p'.skipped = (p.excluding test).skipped := by
    rw [Bool.eq_iff_iff, h.skipped_iff, (marked_excluding p test).skipped_iff]
  -- but for the mark a pod is the one it was, and the mark is settled
  calc p' = { ({ p' with skipped := p.skipped } : Pod) with skipped := p'.skipped } := rfl
    _ = { p with skipped := (p.excluding test).skipped } := by rw [h.same, hskipped]
    _ = p.excluding test := by
      unfold excluding
      split <;> rfl

end Pod

/-- There is one way for the pods of a namespace to be marked. -/
theorem Namespace.marked_iff {n n' : Namespace} :
    n.Marked test n' ↔ n' = { n with pods := n.pods.map (Pod.excluding · test) } := by
  constructor
  · rintro ⟨hname, hpods⟩
    have hmap : n'.pods = n.pods.map (Pod.excluding · test) := by
      rw [← List.forall₂_eq_eq_eq, List.forall₂_map_right_iff]
      exact (hpods.imp fun _ _ h => h.eq_excluding).flip
    rw [← hname, ← hmap]
  · rintro rfl
    refine ⟨rfl, ?_⟩
    rw [List.forall₂_map_right_iff, List.forall₂_same]
    exact fun p _ => p.marked_excluding test

/-! ## Clusters -/

namespace Cluster

variable {c c' : Cluster}

/-- To exclude pods is to mark each that satisfies the test. -/
theorem exclude_eq (c : Cluster) (test : String → Bool) :
    c.exclude test = ({ c with
      namespaces := c.namespaces.map fun n =>
        { n with pods := n.pods.map (Pod.excluding · test) } },
      c.ids.filter fun id => test id.text) :=
  rfl

@[simp] theorem domain_exclude (c : Cluster) (test : String → Bool) :
    (c.exclude test).1.domain = c.domain :=
  rfl

@[simp] theorem pods_exclude (c : Cluster) (test : String → Bool) :
    (c.exclude test).1.pods = c.pods.map (Pod.excluding · test) := by
  simp [exclude_eq, pods, List.flatMap_map, List.map_flatMap]

@[simp] theorem ids_exclude (c : Cluster) (test : String → Bool) :
    (c.exclude test).1.ids = c.ids := by
  simp [ids, Function.comp_def]

/-- **Excluding pods marks them, and does nothing else.** -/
theorem marked_iff : c.Marked test c' ↔ c' = (c.exclude test).1 := by
  constructor
  · rintro ⟨hdomain, hnamespaces⟩
    have hmap : c'.namespaces = (c.exclude test).1.namespaces := by
      rw [exclude_eq, ← List.forall₂_eq_eq_eq, List.forall₂_map_right_iff]
      exact (hnamespaces.imp fun _ _ h => Namespace.marked_iff.mp h).flip
    calc c' = ⟨c'.namespaces, c'.domain⟩ := rfl
      _ = (c.exclude test).1 := by rw [hmap, hdomain, exclude_eq]
  · rintro rfl
    refine ⟨rfl, ?_⟩
    rw [exclude_eq, List.forall₂_map_right_iff, List.forall₂_same]
    exact fun n _ => Namespace.marked_iff.mpr rfl

/-- There are as many pods to tell of as satisfy the test. -/
theorem length_excluded (c : Cluster) (test : String → Bool) :
    (c.exclude test).2.length = c.pods.countP fun p => test p.id.text := by
  rw [exclude_eq, ids, List.filter_map, List.length_map, List.countP_eq_length_filter]
  rfl

/-- Where every pod that satisfies the test is left alone anyway, nothing changes. -/
theorem exclude_eq_self (h : ∀ p ∈ c.pods, test p.id.text = true → p.skipped = true) :
    (c.exclude test).1 = c := by
  have hnamespaces : (c.exclude test).1.namespaces = c.namespaces := by
    rw [exclude_eq]
    conv_rhs => rw [← List.map_id c.namespaces]
    refine List.map_congr_left fun n hn => ?_
    have hpods : n.pods.map (Pod.excluding · test) = n.pods := by
      conv_rhs => rw [← List.map_id n.pods]
      refine List.map_congr_left fun p hp => Pod.excluding_eq_self (h p ?_)
      exact List.mem_flatMap.mpr ⟨n, hn, hp⟩
    rw [hpods]
    rfl
  calc (c.exclude test).1 = ⟨(c.exclude test).1.namespaces, c.domain⟩ := rfl
    _ = c := by rw [hnamespaces]

/-- **Excluding pods once more changes nothing and tells of the same pods.** -/
theorem exclude_exclude (c : Cluster) (test : String → Bool) :
    (c.exclude test).1.exclude test = c.exclude test := by
  refine Prod.ext (exclude_eq_self fun p hp htest => ?_) ?_
  · obtain ⟨q, _, rfl⟩ := List.mem_map.mp (pods_exclude c test ▸ hp)
    rw [Pod.id_excluding] at htest
    rw [Pod.skipped_excluding, htest, Bool.or_true]
  · show (c.exclude test).1.ids.filter _ = c.ids.filter _
    rw [ids_exclude]

/-- What it is to have excluded the pods of a cluster that satisfy a test. -/
structure Excluded (c : Cluster) (test : String → Bool) (result : Cluster × List Identity) :
    Prop where
  /-- Just those pods are marked, besides any that were before, and nothing else is changed. -/
  marked : c.Marked test result.1
  /-- It is told of as many pods as satisfy the test. -/
  count : result.2.length = c.pods.countP fun p => test p.id.text
  ids_eq : result.1.ids = c.ids
  /-- To do it again changes nothing, and tells of the same pods. -/
  again : result.1.exclude test = result

theorem excluded_exclude (c : Cluster) (test : String → Bool) : c.Excluded test (c.exclude test) :=
  ⟨marked_iff.mpr rfl, length_excluded c test, ids_exclude c test, exclude_exclude c test⟩

end Cluster

end PodMesh
