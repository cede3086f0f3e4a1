import Mathlib.Data.List.Nodup
import PodMesh.Cluster.Document
import PodMesh.Proofs.Served

/-!
# Listings of namespaces

Putting a cluster together moves each pod into the namespace that lists it, and refuses two pods
of one identity (`ofNamespaces_proper`). Nothing keeps a namespace from being listed twice. What
is done to single pods afterwards looks for a listing of the namespace, and not every operation
goes on to the next one: a pod is added to the first listing (`addPod_eq_ok`) and removed from the
first (`removePod_eq_ok`), but changed in the first that has it (`modify?_eq_some`).
-/

namespace PodMesh.Cluster

variable {c c' : Cluster} {id : Identity} {pod : Pod} {ns : String} {change : Pod → Pod}

/-- Every pod belongs to the namespace that lists it. -/
def Placed (c : Cluster) : Prop := ∀ n ∈ c.namespaces, ∀ p ∈ n.pods, p.ns = n.name

/-- No namespace is listed twice. -/
def ListedOnce (c : Cluster) : Prop := (c.namespaces.map Namespace.name).Nodup

/-- A cluster as it is put together. -/
structure Proper (c : Cluster) : Prop where
  /-- Every pod belongs to the namespace that lists it. -/
  placed : c.Placed
  /-- No two pods have one identity. -/
  ids_nodup : c.ids.Nodup

/-! ## Putting together -/

/-- **A cluster that is put together is proper.** -/
theorem ofNamespaces_proper {namespaces : List Namespace} {domain : String}
    (h : ofNamespaces namespaces domain = .ok c) : c.Proper := by
  have heq := ofNamespaces_eq_ok h
  refine ⟨?_, ?_⟩
  · intro n hn p hp
    rw [heq] at hn
    obtain ⟨listed, _, rfl⟩ := List.mem_map.mp hn
    obtain ⟨own, _, rfl⟩ := List.mem_map.mp hp
    rfl
  · unfold ofNamespaces at h
    dsimp only at h
    split at h
    · exact nomatch h
    · rename_i hnone
      rw [heq]
      exact firstRepeat?_eq_none.mp hnone

theorem build_proper {namespaces pods : List String} {ports : List UInt16}
    {protocols : List Protocol} {domain : String}
    (h : build namespaces pods ports protocols domain = .ok c) : c.Proper :=
  ofNamespaces_proper h

theorem load_proper {files : Host.Files} {path : String}
    (h : (load files path).1 = .ok c) : c.Proper := by
  unfold load ofContent at h
  split at h
  · exact nomatch h
  · split at h
    · exact nomatch h
    · rename_i document _
      cases hof : ofNamespaces document.namespaces document.domain with
      | error fault => rw [hof] at h; exact nomatch h
      | ok c₀ =>
        rw [hof] at h
        injection h with h
        exact h ▸ ofNamespaces_proper hof

/-- A namespace listed twice, its one pod in the second listing. -/
def listedTwice : Cluster := ⟨[⟨"x", []⟩, ⟨"x", [{ ns := "x", name := "a" }]⟩], "d"⟩

theorem ofNamespaces_listedTwice :
    ofNamespaces [⟨"x", []⟩, ⟨"x", [{ name := "a" }]⟩] "d" = .ok listedTwice := by
  decide

/-! ## One place in a list -/

section Lists

variable {α : Type} {test : α → Bool} {change : α → α}

/-- What is taken is the first element that satisfies the test. -/
theorem takeFirst?_eq_some {x : α} : ∀ {l rest : List α}, takeFirst? test l = some (x, rest) →
    ∃ left right, l = left ++ x :: right ∧ rest = left ++ right ∧ test x = true ∧
      ∀ y ∈ left, test y = false
  | [], _, h => nomatch h
  | y :: ys, rest, h => by
      rw [takeFirst?] at h
      by_cases hy : test y = true
      · rw [if_pos hy] at h
        injection h with h
        obtain ⟨rfl, rfl⟩ := Prod.mk.inj h
        exact ⟨[], ys, rfl, rfl, hy, fun _ hmem => nomatch hmem⟩
      · rw [if_neg hy] at h
        obtain ⟨⟨x', rest'⟩, hrest, heq⟩ := Option.map_eq_some_iff.mp h
        obtain ⟨rfl, rfl⟩ := Prod.mk.inj heq
        obtain ⟨left, right, rfl, rfl, hx, hleft⟩ := takeFirst?_eq_some hrest
        exact ⟨y :: left, right, rfl, rfl, hx,
          List.forall_mem_cons.mpr ⟨Bool.not_eq_true _ ▸ hy, hleft⟩⟩

theorem takeFirst?_eq_none : ∀ {l : List α},
    takeFirst? test l = none ↔ ∀ x ∈ l, test x = false
  | [] => by simp [takeFirst?]
  | y :: ys => by
      rw [takeFirst?, List.forall_mem_cons]
      cases hy : test y with
      | true => simp
      | false => simp [takeFirst?_eq_none]

/-- What is changed is the first element that satisfies the test. -/
theorem modifyFirst?_eq_some : ∀ {l l' : List α}, modifyFirst? test change l = some l' →
    ∃ left x right, l = left ++ x :: right ∧ l' = left ++ change x :: right ∧ test x = true ∧
      ∀ y ∈ left, test y = false
  | [], _, h => nomatch h
  | y :: ys, l', h => by
      rw [modifyFirst?] at h
      by_cases hy : test y = true
      · rw [if_pos hy] at h
        injection h with h
        exact ⟨[], y, ys, rfl, h.symm, hy, fun _ hmem => nomatch hmem⟩
      · rw [if_neg hy] at h
        obtain ⟨ys', hys, rfl⟩ := Option.map_eq_some_iff.mp h
        obtain ⟨left, x, right, rfl, rfl, hx, hleft⟩ := modifyFirst?_eq_some hys
        exact ⟨y :: left, x, right, rfl, rfl, hx,
          List.forall_mem_cons.mpr ⟨Bool.not_eq_true _ ▸ hy, hleft⟩⟩

theorem modifyFirst?_eq_none : ∀ {l : List α},
    modifyFirst? test change l = none ↔ ∀ x ∈ l, test x = false
  | [] => by simp [modifyFirst?]
  | y :: ys => by
      rw [modifyFirst?, List.forall_mem_cons]
      cases hy : test y with
      | true => simp
      | false => simp [modifyFirst?_eq_none]

/-- What is changed is the first listing in which the change succeeds. -/
theorem changeFirst?_eq_some {test : Namespace → Bool} {change : List Pod → Option (List Pod)} :
    ∀ {l l' : List Namespace}, changeFirst? test change l = some l' →
      ∃ before n after pods, l = before ++ n :: after ∧
        l' = before ++ { n with pods := pods } :: after ∧ test n = true ∧
        change n.pods = some pods ∧ ∀ m ∈ before, test m = true → change m.pods = none
  | [], _, h => nomatch h
  | n :: rest, l', h => by
      rw [changeFirst?] at h
      split at h
      · rename_i pods hpods
        obtain ⟨hn, hpods⟩ := Option.ite_none_right_eq_some.mp hpods
        injection h with h
        exact ⟨[], n, rest, pods, rfl, h.symm, hn, hpods, fun _ hmem => nomatch hmem⟩
      · rename_i hnone
        obtain ⟨rest', hrest, rfl⟩ := Option.map_eq_some_iff.mp h
        obtain ⟨before, m, after, pods, rfl, rfl, hm, hpods, hbefore⟩ := changeFirst?_eq_some hrest
        refine ⟨n :: before, m, after, pods, rfl, rfl, hm, hpods,
          List.forall_mem_cons.mpr ⟨fun hn => ?_, hbefore⟩⟩
        rwa [if_pos hn] at hnone

theorem changeFirst?_eq_none {test : Namespace → Bool}
    {change : List Pod → Option (List Pod)} : ∀ {l : List Namespace},
      changeFirst? test change l = none ↔ ∀ n ∈ l, test n = true → change n.pods = none
  | [] => by simp [changeFirst?]
  | n :: rest => by
      rw [changeFirst?, List.forall_mem_cons]
      cases hn : test n with
      | false => simp [changeFirst?_eq_none]
      | true => cases change n.pods <;> simp [changeFirst?_eq_none]

end Lists

/-! ## One listing of a namespace -/

section Listings

variable {before after : List Namespace} {n : Namespace} {left right : List Pod} {domain : String}

theorem placed_append_cons : (⟨before ++ n :: after, domain⟩ : Cluster).Placed ↔
    (∀ m ∈ before, ∀ p ∈ m.pods, p.ns = m.name) ∧ (∀ p ∈ n.pods, p.ns = n.name) ∧
      ∀ m ∈ after, ∀ p ∈ m.pods, p.ns = m.name := by
  rw [Placed, List.forall_mem_append, List.forall_mem_cons]

/-- The place of one pod among all pods. -/
theorem pods_with : (⟨before ++ ⟨ns, left ++ pod :: right⟩ :: after, domain⟩ : Cluster).pods =
    (before.flatMap Namespace.pods ++ left) ++ pod :: (right ++ after.flatMap Namespace.pods) := by
  simp [pods]

/-- The same pods without the one. -/
theorem pods_without : (⟨before ++ ⟨ns, left ++ right⟩ :: after, domain⟩ : Cluster).pods =
    (before.flatMap Namespace.pods ++ left) ++ (right ++ after.flatMap Namespace.pods) := by
  simp [pods]

theorem ids_with_perm :
    (⟨before ++ ⟨ns, left ++ pod :: right⟩ :: after, domain⟩ : Cluster).ids.Perm
      (pod.id :: (⟨before ++ ⟨ns, left ++ right⟩ :: after, domain⟩ : Cluster).ids) := by
  rw [ids, pods_with, ids, pods_without, ← List.map_cons]
  exact List.perm_middle.map Pod.id

theorem ids_add_perm : (⟨before ++ ⟨ns, left ++ [pod]⟩ :: after, domain⟩ : Cluster).ids.Perm
    (pod.id :: (⟨before ++ ⟨ns, left⟩ :: after, domain⟩ : Cluster).ids) := by
  have h : (⟨before ++ ⟨ns, left ++ [pod]⟩ :: after, domain⟩ : Cluster).ids.Perm
      (pod.id :: (⟨before ++ ⟨ns, left ++ []⟩ :: after, domain⟩ : Cluster).ids) := ids_with_perm
  rwa [List.append_nil] at h

theorem ids_found_perm : (⟨before ++ [⟨ns, [pod]⟩], domain⟩ : Cluster).ids.Perm
    (pod.id :: (⟨before, domain⟩ : Cluster).ids) := by
  have h : (⟨before ++ [⟨ns, [pod]⟩], domain⟩ : Cluster).ids =
      (⟨before, domain⟩ : Cluster).ids ++ [pod.id] := by simp [ids, pods]
  rw [h]
  exact List.perm_append_singleton _ _

/-- An identity is listed where some listing of its namespace has a pod of its name. -/
theorem mem_ids (hc : c.Placed) : id ∈ c.ids ↔
    ∃ n ∈ c.namespaces, n.name = id.ns ∧ ∃ p ∈ n.pods, p.name = id.name := by
  rw [ids, List.mem_map]
  constructor
  · rintro ⟨p, hp, rfl⟩
    obtain ⟨n, hn, hpn⟩ := List.mem_flatMap.mp hp
    exact ⟨n, hn, (hc n hn p hpn).symm, p, hpn, rfl⟩
  · rintro ⟨n, hn, hname, p, hp, hpname⟩
    refine ⟨p, List.mem_flatMap.mpr ⟨n, hn, hp⟩, ?_⟩
    rw [Pod.id, hc n hn p hp, hname, hpname]

theorem addPod.go_eq_some : ∀ {namespaces namespaces' : List Namespace},
    addPod.go pod namespaces = some namespaces' →
      (∃ before pods after, namespaces = before ++ ⟨pod.ns, pods⟩ :: after ∧
        namespaces' = before ++ ⟨pod.ns, pods ++ [pod]⟩ :: after ∧
        (∀ m ∈ before, m.name ≠ pod.ns) ∧ ∀ p ∈ pods, p.name ≠ pod.name) ∨
      (∀ n ∈ namespaces, n.name ≠ pod.ns) ∧ namespaces' = namespaces ++ [⟨pod.ns, [pod]⟩]
  | [], _, h => by
      injection h with h
      exact .inr ⟨fun _ hmem => (nomatch hmem), h.symm⟩
  | n :: rest, namespaces', h => by
      rw [go] at h
      by_cases hn : n.name = pod.ns
      · -- The first listing decides, whatever comes after it.
        rw [if_pos hn] at h
        obtain ⟨hnot, hsome⟩ := Option.ite_none_left_eq_some.mp h
        injection hsome with hsome
        obtain ⟨name, pods⟩ := n
        obtain rfl : name = pod.ns := hn
        refine .inl ⟨[], pods, rest, rfl, hsome.symm, fun _ hmem => (nomatch hmem), ?_⟩
        simpa using hnot
      · rw [if_neg hn] at h
        obtain ⟨rest', hrest, rfl⟩ := Option.map_eq_some_iff.mp h
        rcases addPod.go_eq_some hrest with
          ⟨before, pods, after, rfl, rfl, hbefore, hnames⟩ | ⟨hnone, rfl⟩
        · exact .inl ⟨n :: before, pods, after, rfl, rfl,
            List.forall_mem_cons.mpr ⟨hn, hbefore⟩, hnames⟩
        · exact .inr ⟨List.forall_mem_cons.mpr ⟨hn, hnone⟩, rfl⟩

theorem removePod.go_eq_some : ∀ {pod : Pod} {namespaces namespaces' : List Namespace},
    removePod.go id namespaces = some (pod, namespaces') →
      ∃ before pods after rest, namespaces = before ++ ⟨id.ns, pods⟩ :: after ∧
        namespaces' = before ++ ⟨id.ns, rest⟩ :: after ∧ (∀ m ∈ before, m.name ≠ id.ns) ∧
        takeFirst? (fun p => p.name = id.name) pods = some (pod, rest)
  | _, [], _, h => nomatch h
  | pod, n :: others, namespaces', h => by
      rw [go] at h
      by_cases hn : n.name = id.ns
      · rw [if_pos hn] at h
        obtain ⟨⟨p, rest⟩, htake, heq⟩ := Option.map_eq_some_iff.mp h
        obtain ⟨rfl, rfl⟩ := Prod.mk.inj heq
        obtain ⟨name, pods⟩ := n
        obtain rfl : name = id.ns := hn
        exact ⟨[], pods, others, rest, rfl, rfl, fun _ hmem => (nomatch hmem), htake⟩
      · rw [if_neg hn] at h
        obtain ⟨⟨p, others'⟩, hothers, heq⟩ := Option.map_eq_some_iff.mp h
        obtain ⟨rfl, rfl⟩ := Prod.mk.inj heq
        obtain ⟨before, pods, after, rest, rfl, rfl, hbefore, htake⟩ :=
          removePod.go_eq_some hothers
        exact ⟨n :: before, pods, after, rest, rfl, rfl,
          List.forall_mem_cons.mpr ⟨hn, hbefore⟩, htake⟩

/-- A pod is added to the first listing of the namespace, or to a new one at the end. -/
theorem addPod_eq_ok (h : c.addPod pod ns = .ok c') :
    (∃ before pods after, c.namespaces = before ++ ⟨ns, pods⟩ :: after ∧
      c' = { c with namespaces := before ++ ⟨ns, pods ++ [{ pod with ns }]⟩ :: after } ∧
      (∀ m ∈ before, m.name ≠ ns) ∧ ∀ p ∈ pods, p.name ≠ pod.name) ∨
    (∀ n ∈ c.namespaces, n.name ≠ ns) ∧
      c' = { c with namespaces := c.namespaces ++ [⟨ns, [{ pod with ns }]⟩] } := by
  unfold addPod at h
  dsimp only at h
  split at h
  · rename_i namespaces' hgo
    injection h with h
    subst h
    rcases addPod.go_eq_some hgo with
      ⟨before, pods, after, heq, rfl, hbefore, hnames⟩ | ⟨hnone, rfl⟩
    · exact .inl ⟨before, pods, after, heq, rfl, hbefore, hnames⟩
    · exact .inr ⟨hnone, rfl⟩
  · exact nomatch h

/-- A pod is removed from the first listing of its namespace. -/
theorem removePod_eq_ok (h : c.removePod id = .ok (pod, c')) :
    ∃ before left right after,
      c.namespaces = before ++ ⟨id.ns, left ++ pod :: right⟩ :: after ∧
      c' = { c with namespaces := before ++ ⟨id.ns, left ++ right⟩ :: after } ∧
      (∀ m ∈ before, m.name ≠ id.ns) ∧ pod.name = id.name ∧
      ∀ p ∈ left, p.name ≠ id.name := by
  unfold removePod at h
  split at h
  · rename_i pod₀ namespaces' hgo
    injection h with h
    obtain ⟨rfl, rfl⟩ := Prod.mk.inj h
    obtain ⟨before, pods, after, rest, heq, rfl, hbefore, htake⟩ := removePod.go_eq_some hgo
    obtain ⟨left, right, rfl, rfl, hpod, hleft⟩ := takeFirst?_eq_some htake
    exact ⟨before, left, right, after, heq, rfl, hbefore, of_decide_eq_true hpod,
      fun p hp => of_decide_eq_false (hleft p hp)⟩
  · exact nomatch h

/-- A pod is changed in the first listing of its namespace that has it. -/
theorem modify?_eq_some (h : c.modify? id change = some c') :
    ∃ before left p right after,
      c.namespaces = before ++ ⟨id.ns, left ++ p :: right⟩ :: after ∧
      c' = { c with namespaces := before ++ ⟨id.ns, left ++ change p :: right⟩ :: after } ∧
      (∀ m ∈ before, m.name = id.ns → ∀ q ∈ m.pods, q.name ≠ id.name) ∧
      p.name = id.name ∧ ∀ q ∈ left, q.name ≠ id.name := by
  obtain ⟨namespaces', hchange, rfl⟩ := Option.map_eq_some_iff.mp h
  obtain ⟨before, ⟨name, pods⟩, after, pods', heq, rfl, hname, hpods, hbefore⟩ :=
    changeFirst?_eq_some hchange
  obtain ⟨left, p, right, rfl, rfl, hp, hleft⟩ := modifyFirst?_eq_some hpods
  obtain rfl : name = id.ns := of_decide_eq_true hname
  refine ⟨before, left, p, right, after, heq, rfl, fun m hm hname q hq => ?_,
    of_decide_eq_true hp, fun q hq => of_decide_eq_false (hleft q hq)⟩
  exact of_decide_eq_false (modifyFirst?_eq_none.mp (hbefore m hm (decide_eq_true hname)) q hq)

end Listings

end PodMesh.Cluster
