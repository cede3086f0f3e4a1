import Mathlib.Data.List.Find
import PodMesh.Proofs.Cluster.Listings

/-!
# Looking pods up

A pod can be listed, looked up, changed and removed, and each of these searches the namespaces in
its own way. The first three agree on any cluster whose pods are where they belong
(`Placed.find?_eq`, `isSome_modify?`). Removing looks at the first listing of a namespace only.
What it removes is what a look-up finds (`Placed.removePod_removes`), and it removes whatever is
listed if no namespace is listed twice (`Placed.lookups_agree`), but it misses a pod that only a
later listing has (`removePod_misses_listed`).
-/

namespace PodMesh.Cluster

variable {c c' : Cluster} {id : Identity} {pod : Pod} {change : Pod → Pod}

/-! ## Finding and changing -/

/-- **A look-up by namespace and name finds the first pod of that identity.** -/
theorem Placed.find?_eq (hc : c.Placed) : c.find? id = c.pods.find? fun p => p.id = id := by
  obtain ⟨namespaces, domain⟩ := c
  rw [find?, pods]
  induction namespaces with
  | nil => rfl
  | cons n rest ih =>
    obtain ⟨hown, hrest⟩ := List.forall_mem_cons.mp hc
    -- In this listing only the names are left to compare.
    have hid : ∀ p ∈ n.pods, (p.id = id ↔ n.name = id.ns ∧ p.name = id.name) := by
      intro p hp
      rw [← hown p hp]
      exact Identity.mk.injEq _ _ _ _ ▸ Iff.rfl
    rw [List.flatMap_cons, List.find?_append, ← ih hrest, List.filter_cons]
    by_cases hn : n.name = id.ns
    · have hsame : n.pods.find? (fun p => p.name = id.name) = n.pods.find? fun p => p.id = id :=
        List.find?_congr fun p hp => by simp [hid p hp, hn]
      rw [if_pos (decide_eq_true hn), List.flatMap_cons, List.find?_append, hsame]
    · have hnone : n.pods.find? (fun p => p.id = id) = none :=
        List.find?_eq_none.mpr fun p hp => by simp [hid p hp, hn]
      rw [if_neg (by simpa using hn), hnone, Option.none_or]

theorem Placed.isSome_find?_iff (hc : c.Placed) : (c.find? id).isSome ↔ id ∈ c.ids := by
  rw [hc.find?_eq, List.find?_isSome, ids, List.mem_map]
  simp only [decide_eq_true_eq]

/-- A pod can be changed exactly where a look-up finds one. -/
theorem isSome_modify? : (c.modify? id change).isSome = (c.find? id).isSome := by
  rw [Bool.eq_iff_iff, ← not_iff_not]
  simp only [Bool.not_eq_true, Option.isSome_eq_false_iff, Option.isNone_iff_eq_none]
  rw [modify?, Option.map_eq_none_iff, changeFirst?_eq_none, find?, List.find?_eq_none]
  simp only [modifyFirst?_eq_none, List.mem_flatMap, List.mem_filter, decide_eq_true_eq,
    decide_eq_false_iff_not]
  constructor
  · rintro h p ⟨n, ⟨hn, hname⟩, hp⟩
    exact h n hn hname p hp
  · intro h n hn hname p hp
    exact h p ⟨n, ⟨hn, hname⟩, hp⟩

section Split

variable {before after : List Namespace} {left right : List Pod} {domain : String}

/-- Where no earlier listing of a namespace has a pod of some name, and no earlier pod of the
listing has it, no earlier pod has the identity. -/
theorem Placed.id_ne_of_before
    (hc : Placed ⟨before ++ ⟨id.ns, left ++ pod :: right⟩ :: after, domain⟩)
    (hbefore : ∀ m ∈ before, m.name = id.ns → ∀ p ∈ m.pods, p.name ≠ id.name)
    (hleft : ∀ p ∈ left, p.name ≠ id.name) :
    ∀ p ∈ before.flatMap Namespace.pods ++ left, p.id ≠ id := by
  obtain ⟨hplaced, _, _⟩ := placed_append_cons.mp hc
  rintro p hp rfl
  rcases List.mem_append.mp hp with hp | hp
  · obtain ⟨m, hm, hpm⟩ := List.mem_flatMap.mp hp
    exact hbefore m hm (hplaced m hm p hpm).symm p hpm rfl
  · exact hleft p hp rfl

theorem Placed.find?_of_first
    (hc : Placed ⟨before ++ ⟨id.ns, left ++ pod :: right⟩ :: after, domain⟩)
    (hbefore : ∀ m ∈ before, m.name = id.ns → ∀ p ∈ m.pods, p.name ≠ id.name)
    (hname : pod.name = id.name) (hleft : ∀ p ∈ left, p.name ≠ id.name) :
    (⟨before ++ ⟨id.ns, left ++ pod :: right⟩ :: after, domain⟩ : Cluster).find? id = some pod := by
  have hns : pod.ns = id.ns := (placed_append_cons.mp hc).2.1 pod List.mem_append_cons_self
  have hid : pod.id = id := by rw [Pod.id, hns, hname]
  rw [hc.find?_eq, pods_with, List.find?_eq_some_iff_append]
  refine ⟨decide_eq_true hid, _, _, rfl, fun p hp => ?_⟩
  simpa using hc.id_ne_of_before hbefore hleft p hp

end Split

/-- **A change is made to the pod that a look-up finds, and to no other.** -/
theorem Placed.modify?_changes (hc : c.Placed) (h : c.modify? id change = some c') :
    ∃ p before after, c.find? id = some p ∧ c.pods = before ++ p :: after ∧
      c'.pods = before ++ change p :: after := by
  obtain ⟨namespaces, domain⟩ := c
  obtain ⟨before, left, p, right, after, heq, rfl, hbefore, hname, hleft⟩ := modify?_eq_some h
  obtain rfl : namespaces = _ := heq
  exact ⟨p, _, _, hc.find?_of_first hbefore hname hleft, pods_with, pods_with⟩

/-! ## Removing -/

theorem erase_ids_append_cons {front back : List Pod} (hnew : pod.id ∉ front.map Pod.id) :
    ((front ++ pod :: back).map Pod.id).erase pod.id = (front ++ back).map Pod.id := by
  rw [List.map_append, List.map_cons, List.erase_append_right _ hnew, List.erase_cons_head,
    List.map_append]

/-- **What is removed is the pod that a look-up finds. No other pod changes or moves.** -/
theorem Placed.removePod_removes (hc : c.Placed) (h : c.removePod id = .ok (pod, c')) :
    c.find? id = some pod ∧ c'.ids = c.ids.erase id ∧
      ∃ before after, c.pods = before ++ pod :: after ∧ c'.pods = before ++ after := by
  obtain ⟨namespaces, domain⟩ := c
  obtain ⟨before, left, right, after, heq, rfl, hbefore, hname, hleft⟩ := removePod_eq_ok h
  obtain rfl : namespaces = _ := heq
  have hother : ∀ m ∈ before, m.name = id.ns → ∀ p ∈ m.pods, p.name ≠ id.name :=
    fun m hm hmname => absurd hmname (hbefore m hm)
  have hfind := hc.find?_of_first hother hname hleft
  have hid : pod.id = id := by
    rw [hc.find?_eq] at hfind
    simpa using List.find?_some hfind
  have hnew : pod.id ∉ (before.flatMap Namespace.pods ++ left).map Pod.id := by
    rw [List.mem_map]
    rintro ⟨p, hp, hpid⟩
    exact hc.id_ne_of_before hother hleft p hp (hpid.trans hid)
  refine ⟨hfind, ?_, _, _, pods_with, pods_without⟩
  rw [ids, ids, pods_with, pods_without, ← hid]
  exact (erase_ids_append_cons hnew).symm

/-- Only the first listing of the namespace is searched. -/
theorem removePod.go_append_cons {before after : List Namespace} {pods : List Pod}
    (hbefore : ∀ m ∈ before, m.name ≠ id.ns) :
    removePod.go id (before ++ ⟨id.ns, pods⟩ :: after) =
      (takeFirst? (fun p => p.name = id.name) pods).map fun (p, rest) =>
        (p, before ++ ⟨id.ns, rest⟩ :: after) := by
  induction before with
  | nil => rw [List.nil_append, go, if_pos rfl]; rfl
  | cons m before ih =>
    obtain ⟨hm, hbefore⟩ := List.forall_mem_cons.mp hbefore
    rw [List.cons_append, go, if_neg hm, ih hbefore, Option.map_map]
    rfl

/-- **Removing succeeds where the first listing of the namespace has a pod of that name.** -/
theorem removePod_isOk_iff : (∃ removed, c.removePod id = .ok removed) ↔
    ∃ before pods after, c.namespaces = before ++ ⟨id.ns, pods⟩ :: after ∧
      (∀ m ∈ before, m.name ≠ id.ns) ∧ ∃ p ∈ pods, p.name = id.name := by
  constructor
  · rintro ⟨⟨pod, c'⟩, h⟩
    obtain ⟨before, left, right, after, heq, -, hbefore, hname, -⟩ := removePod_eq_ok h
    exact ⟨before, _, after, heq, hbefore, pod, List.mem_append_cons_self, hname⟩
  · rintro ⟨before, pods, after, heq, hbefore, p, hp, hname⟩
    rw [removePod, heq, removePod.go_append_cons hbefore]
    cases htake : takeFirst? (fun p => p.name = id.name) pods with
    | none => exact absurd hname (of_decide_eq_false (takeFirst?_eq_none.mp htake p hp))
    | some taken => exact ⟨_, rfl⟩

theorem removePod_eq_error {fault : Fault} (h : c.removePod id = .error fault) :
    fault = .noSuchPod id := by
  unfold removePod at h
  split at h
  · exact nomatch h
  · injection h with h
    exact h.symm

/-- **Where no namespace is listed twice, they all agree.** Either an identity is listed, and the
pod that is found is removed, or it is not, and nothing is found or removed. -/
theorem Placed.lookups_agree (hc : c.Placed) (honce : c.ListedOnce) :
    (id ∈ c.ids ∧ ∃ pod c', c.find? id = some pod ∧ c.removePod id = .ok (pod, c')) ∨
      (id ∉ c.ids ∧ c.find? id = none ∧ c.removePod id = .error (.noSuchPod id)) := by
  by_cases hid : id ∈ c.ids
  · obtain ⟨⟨name, pods⟩, hn, hname, hpod⟩ := (mem_ids hc).mp hid
    obtain rfl : name = id.ns := hname
    obtain ⟨before, after, heq⟩ := List.append_of_mem hn
    -- What stands before the one listing of a namespace are listings of others.
    have hbefore : ∀ m ∈ before, m.name ≠ id.ns := by
      rw [ListedOnce, heq, List.map_append, List.map_cons, List.nodup_middle,
        List.nodup_cons] at honce
      intro m hm hmname
      exact honce.1 (List.mem_append_left _ (List.mem_map.mpr ⟨m, hm, hmname⟩))
    obtain ⟨⟨pod, c'⟩, h⟩ := removePod_isOk_iff.mpr ⟨before, pods, after, heq, hbefore, hpod⟩
    exact .inl ⟨hid, pod, c', (hc.removePod_removes h).1, h⟩
  · have hnone : c.find? id = none := by
      rw [← Option.not_isSome_iff_eq_none, hc.isSome_find?_iff]
      exact hid
    refine .inr ⟨hid, hnone, ?_⟩
    cases h : c.removePod id with
    | ok removed =>
      have hsome := (hc.removePod_removes h).1
      rw [hnone] at hsome
      cases hsome
    | error fault => rw [removePod_eq_error h]

/-- **A pod that is listed and found, but not in the first listing of its namespace, is not
removed.** -/
theorem removePod_misses_listed :
    listedTwice.ids = [⟨"x", "a"⟩] ∧ (listedTwice.find? ⟨"x", "a"⟩).isSome ∧
      listedTwice.removePod ⟨"x", "a"⟩ = .error (.noSuchPod ⟨"x", "a"⟩) := by
  decide

end PodMesh.Cluster
