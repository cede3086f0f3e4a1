import Mathlib.Data.List.InsertIdx
import PodMesh.Proofs.Cluster.Editing
import PodMesh.Proofs.Cluster.Lookup

/-!
# A pod that is added and removed again

Adding and removing both look for the first listing of a namespace, and for the first pod of a name
in it. So the pod that is removed is the one that was added, even where a later listing of the
namespace has a pod of the same name, and what is left are the pods there were, each in its place
(`removePod_undoes_addPod`). Only a namespace that was listed for the pod stays, without pods.
-/

namespace PodMesh.Cluster

variable {c c' : Cluster} {pod : Pod} {pods : List Pod} {ns domain : String}
  {before after namespaces : List Namespace}

/-! ## The first listing -/

/-- The first listing of a namespace, if there is one. -/
def listing? (c : Cluster) (ns : String) : Option Namespace :=
  c.namespaces.find? fun n => n.name = ns

/-- The first listing of the namespace has a pod of the name. -/
def InFirstListing (c : Cluster) (id : Identity) : Prop :=
  ∃ n, c.listing? id.ns = some n ∧ ∃ p ∈ n.pods, p.name = id.name

/-- How many pods there are up to the end of the first listing of a namespace. Without one these are
all pods. -/
def endOf (ns : String) : List Namespace → Nat
  | [] => 0
  | n :: rest => if n.name = ns then n.pods.length else n.pods.length + endOf ns rest

/-- The cluster with a namespace listed, at the end and without pods if it was not. -/
def founded (c : Cluster) (ns : String) : Cluster :=
  match c.listing? ns with
  | some _ => c
  | none => { c with namespaces := c.namespaces ++ [⟨ns, []⟩] }

/-- A namespace is listed first at some place, or nowhere. -/
theorem exists_listing (c : Cluster) (ns : String) :
    (∃ before pods after, c.namespaces = before ++ ⟨ns, pods⟩ :: after ∧
      (∀ m ∈ before, m.name ≠ ns) ∧ c.listing? ns = some ⟨ns, pods⟩) ∨
    (∀ n ∈ c.namespaces, n.name ≠ ns) ∧ c.listing? ns = none := by
  cases h : c.listing? ns with
  | none =>
    refine .inr ⟨fun n hn hname => ?_, rfl⟩
    exact absurd hname (of_decide_eq_false (by simpa using List.find?_eq_none.mp h n hn))
  | some n =>
    obtain ⟨hname, before, after, heq, hbefore⟩ := List.find?_eq_some_iff_append.mp h
    obtain ⟨name, pods⟩ := n
    obtain rfl : name = ns := of_decide_eq_true hname
    exact .inl ⟨before, pods, after, heq, fun m hm => by simpa using hbefore m hm, rfl⟩

theorem endOf_append_cons (hbefore : ∀ m ∈ before, m.name ≠ ns) :
    endOf ns (before ++ ⟨ns, pods⟩ :: after) =
      (before.flatMap Namespace.pods ++ pods).length := by
  induction before with
  | nil => rw [List.nil_append, endOf, if_pos rfl]; rfl
  | cons m before ih =>
    obtain ⟨hm, hbefore⟩ := List.forall_mem_cons.mp hbefore
    rw [List.cons_append, endOf, if_neg hm, ih hbefore, List.flatMap_cons, List.append_assoc]
    exact List.length_append.symm

theorem endOf_of_unlisted (h : ∀ n ∈ namespaces, n.name ≠ ns) :
    endOf ns namespaces = (namespaces.flatMap Namespace.pods).length := by
  induction namespaces with
  | nil => rfl
  | cons n rest ih =>
    obtain ⟨hn, hrest⟩ := List.forall_mem_cons.mp h
    rw [endOf, if_neg hn, ih hrest, List.flatMap_cons, List.length_append]

/-! ## Adding -/

theorem addPod.go_append_cons (pod : Pod) (pods : List Pod) (after : List Namespace)
    (hbefore : ∀ m ∈ before, m.name ≠ pod.ns) :
    addPod.go pod (before ++ ⟨pod.ns, pods⟩ :: after) =
      if ∃ p ∈ pods, p.name = pod.name then none
      else some (before ++ ⟨pod.ns, pods ++ [pod]⟩ :: after) := by
  induction before with
  | nil =>
    rw [List.nil_append, go, if_pos rfl]
    simp only [List.any_eq_true, decide_eq_true_eq]
    rfl
  | cons m before ih =>
    obtain ⟨hm, hbefore⟩ := List.forall_mem_cons.mp hbefore
    rw [List.cons_append, go, if_neg hm, ih hbefore]
    split <;> rfl

theorem addPod.go_of_unlisted (pod : Pod) (h : ∀ n ∈ namespaces, n.name ≠ pod.ns) :
    addPod.go pod namespaces = some (namespaces ++ [⟨pod.ns, [pod]⟩]) := by
  induction namespaces with
  | nil => rfl
  | cons n rest ih =>
    obtain ⟨hn, hrest⟩ := List.forall_mem_cons.mp h
    rw [go, if_neg hn, ih hrest]
    rfl

/-- A pod comes last in the first listing of a namespace, unless that has one of its name. -/
theorem addPod_of_listed (hbefore : ∀ m ∈ before, m.name ≠ ns) :
    addPod ⟨before ++ ⟨ns, pods⟩ :: after, domain⟩ pod ns =
      if ∃ p ∈ pods, p.name = pod.name then .error (.duplicate (Identity.text ⟨ns, pod.name⟩))
      else .ok ⟨before ++ ⟨ns, pods ++ [{ pod with ns }]⟩ :: after, domain⟩ := by
  have hgo := addPod.go_append_cons { pod with ns } pods after hbefore
  unfold addPod
  dsimp only at hgo ⊢
  by_cases h : ∃ p ∈ pods, p.name = pod.name
  · rw [if_pos h] at hgo
    rw [hgo, if_pos h]
    rfl
  · rw [if_neg h] at hgo
    rw [hgo, if_neg h]

/-- A pod comes into a listing of its own where the namespace has none. -/
theorem addPod_of_unlisted (h : ∀ n ∈ c.namespaces, n.name ≠ ns) : c.addPod pod ns =
    .ok { c with namespaces := c.namespaces ++ [⟨ns, [{ pod with ns }]⟩] } := by
  have hgo := addPod.go_of_unlisted { pod with ns } h
  unfold addPod
  dsimp only at hgo ⊢
  rw [hgo]

/-- **Adding a pod is refused just if the first listing of the namespace has one of its name.** -/
theorem addPod_eq_error_iff {fault : Fault} : c.addPod pod ns = .error fault ↔
    c.InFirstListing ⟨ns, pod.name⟩ ∧ fault = .duplicate (Identity.text ⟨ns, pod.name⟩) := by
  obtain ⟨namespaces, domain⟩ := c
  rcases exists_listing ⟨namespaces, domain⟩ ns with
    ⟨before, pods, after, heq, hbefore, hlisting⟩ | ⟨hnone, hlisting⟩
  · obtain rfl : namespaces = _ := heq
    have hfirst : InFirstListing ⟨before ++ ⟨ns, pods⟩ :: after, domain⟩ ⟨ns, pod.name⟩ ↔
        ∃ p ∈ pods, p.name = pod.name := by
      rw [InFirstListing, hlisting]
      simp
    rw [addPod_of_listed hbefore, hfirst]
    by_cases h : ∃ p ∈ pods, p.name = pod.name
    · rw [if_pos h, Except.error.injEq, eq_comm, and_iff_right h]
    · rw [if_neg h]
      exact ⟨fun h => (nomatch h), fun h' => absurd h'.1 h⟩
  · rw [addPod_of_unlisted hnone, InFirstListing, hlisting]
    exact ⟨fun h => (nomatch h), fun ⟨⟨_, h, _⟩, _⟩ => (nomatch h)⟩

/-! ## Adding and removing -/

/-- The last element of a list is taken where no other satisfies the test. -/
theorem takeFirst?_append_singleton {α : Type} {test : α → Bool} {x : α} {l : List α}
    (hl : ∀ y ∈ l, test y = false) (hx : test x = true) :
    takeFirst? test (l ++ [x]) = some (x, l) := by
  induction l with
  | nil => rw [List.nil_append, takeFirst?, if_pos hx]
  | cons y l ih =>
    obtain ⟨hy, hl⟩ := List.forall_mem_cons.mp hl
    rw [List.cons_append, takeFirst?, hy, ih hl]
    rfl

theorem insertIdx_length_append {α : Type} (left right : List α) (x : α) :
    (left ++ right).insertIdx left.length x = left ++ x :: right :=
  List.modifyTailIdx_add (List.cons x) 0 left right

/-- What adding a pod makes of a cluster, and that removing the pod brings the cluster back. -/
structure Undone (c c' : Cluster) (pod : Pod) (ns : String) : Prop where
  /-- The pod comes last in the first listing of its namespace, or last of all. -/
  pods : c'.pods = c.pods.insertIdx (endOf ns c.namespaces) { pod with ns }
  /-- So does its identity. -/
  ids : c'.ids = c.ids.insertIdx (endOf ns c.namespaces) ⟨ns, pod.name⟩
  /-- What is removed is this pod. All namespaces are as they were, and a new one stays empty. -/
  removed : c'.removePod ⟨ns, pod.name⟩ = .ok ({ pod with ns }, c.founded ns)

/-- The pods alone say where the identity comes. -/
theorem ids_eq_insertIdx {i : Nat} (h : c'.pods = c.pods.insertIdx i { pod with ns }) :
    c'.ids = c.ids.insertIdx i ⟨ns, pod.name⟩ := by
  rw [Cluster.ids, h, List.map_insertIdx]
  rfl

theorem undone_of_listed (hbefore : ∀ m ∈ before, m.name ≠ ns)
    (hnames : ∀ p ∈ pods, p.name ≠ pod.name)
    (hlisting : listing? ⟨before ++ ⟨ns, pods⟩ :: after, domain⟩ ns = some ⟨ns, pods⟩) :
    Undone ⟨before ++ ⟨ns, pods⟩ :: after, domain⟩
      ⟨before ++ ⟨ns, pods ++ [{ pod with ns }]⟩ :: after, domain⟩ pod ns := by
  have hpods : (⟨before ++ ⟨ns, pods ++ [{ pod with ns }]⟩ :: after, domain⟩ : Cluster).pods =
      (⟨before ++ ⟨ns, pods⟩ :: after, domain⟩ : Cluster).pods.insertIdx
        (endOf ns (before ++ ⟨ns, pods⟩ :: after)) { pod with ns } := by
    have hold : (⟨before ++ ⟨ns, pods⟩ :: after, domain⟩ : Cluster).pods =
        (before.flatMap Namespace.pods ++ pods) ++ after.flatMap Namespace.pods := by
      simp [Cluster.pods]
    rw [pods_with, hold, endOf_append_cons hbefore, insertIdx_length_append, List.nil_append]
  refine ⟨hpods, ids_eq_insertIdx hpods, ?_⟩
  -- no pod before the new one has its name, so the search ends at the new one
  have htake : takeFirst? (fun p => p.name = pod.name) (pods ++ [{ pod with ns }]) =
      some ({ pod with ns }, pods) :=
    takeFirst?_append_singleton (fun p hp => decide_eq_false (hnames p hp)) (decide_eq_true rfl)
  have hfirst : ∀ m ∈ before, m.name ≠ (⟨ns, pod.name⟩ : Identity).ns := hbefore
  rw [removePod, removePod.go_append_cons hfirst, htake, founded, hlisting]
  rfl

theorem undone_of_unlisted (hnone : ∀ n ∈ c.namespaces, n.name ≠ ns)
    (hlisting : c.listing? ns = none) :
    Undone c { c with namespaces := c.namespaces ++ [⟨ns, [{ pod with ns }]⟩] } pod ns := by
  have hpods : ({ c with namespaces := c.namespaces ++ [⟨ns, [{ pod with ns }]⟩] } : Cluster).pods =
      c.pods.insertIdx (endOf ns c.namespaces) { pod with ns } := by
    rw [endOf_of_unlisted hnone, ← Cluster.pods, List.insertIdx_length_self]
    simp [Cluster.pods]
  refine ⟨hpods, ids_eq_insertIdx hpods, ?_⟩
  have htake : takeFirst? (fun p => p.name = pod.name) [{ pod with ns }] =
      some ({ pod with ns }, []) :=
    takeFirst?_append_singleton (l := []) (List.forall_mem_nil _) (decide_eq_true rfl)
  have hfirst : ∀ n ∈ c.namespaces, n.name ≠ (⟨ns, pod.name⟩ : Identity).ns := hnone
  rw [removePod, removePod.go_append_cons hfirst, htake, founded, hlisting]
  rfl

/--
**A pod that was added can be removed again, and then everything is as before.**

Adding is refused just where the first listing of the namespace has a pod of that name, and then for
the identity of that pod, with nothing changed. Otherwise the pod comes last in the first listing of
the namespace, or last of all in a new one, while all other pods stay as and where they are.
Removing it gives it back, in its new namespace, and leaves the namespaces there were before, with
an empty one behind them if it had to be listed.
-/
theorem removePod_undoes_addPod (c : Cluster) (pod : Pod) (ns : String) :
    ((∃ fault, c.addPod pod ns = .error fault) ↔ c.InFirstListing ⟨ns, pod.name⟩) ∧
    (∀ fault, c.addPod pod ns = .error fault →
      fault = .duplicate (Identity.text ⟨ns, pod.name⟩) ∧ c.edited (.add pod ns) = c) ∧
    ∀ c', c.addPod pod ns = .ok c' → Undone c c' pod ns := by
  refine ⟨?_, fun fault h => ⟨(addPod_eq_error_iff.mp h).2, ?_⟩, fun c' h => ?_⟩
  · simp only [addPod_eq_error_iff, exists_and_left, exists_eq, and_true]
  · rw [edited, h]
  · obtain ⟨namespaces, domain⟩ := c
    rcases exists_listing ⟨namespaces, domain⟩ ns with
      ⟨before, pods, after, heq, hbefore, hlisting⟩ | ⟨hnone, hlisting⟩
    · obtain rfl : namespaces = _ := heq
      rw [addPod_of_listed hbefore] at h
      split at h
      · cases h
      · rename_i hnames
        injection h with h
        subst h
        exact undone_of_listed hbefore (fun p hp hname => hnames ⟨p, hp, hname⟩) hlisting
    · rw [addPod_of_unlisted hnone] at h
      injection h with h
      subst h
      exact undone_of_unlisted hnone hlisting

/-- The first listing has no pod yet, so one of a name that the second has is added to it, and then
removed from it. -/
theorem removePod_undoes_addPod_of_listedTwice : ∃ c',
    listedTwice.addPod { name := "a" } "x" = .ok c' ∧ c'.ids = [⟨"x", "a"⟩, ⟨"x", "a"⟩] ∧
    c'.removePod ⟨"x", "a"⟩ = .ok ({ ns := "x", name := "a" }, listedTwice) ∧
    c'.addPod { name := "a" } "x" = .error (.duplicate "x/a") := by
  obtain ⟨c', h⟩ : ∃ c', listedTwice.addPod { name := "a" } "x" = .ok c' := ⟨_, rfl⟩
  have hundone := (removePod_undoes_addPod listedTwice { name := "a" } "x").2.2 c' h
  injection h with h
  subst h
  obtain ⟨hrefused, hfault, _⟩ := removePod_undoes_addPod
    ⟨[⟨"x", [{ ns := "x", name := "a" }]⟩, ⟨"x", [{ ns := "x", name := "a" }]⟩], "d"⟩
    { name := "a" } "x"
  obtain ⟨fault, herror⟩ := hrefused.mpr
    ⟨⟨"x", [{ ns := "x", name := "a" }]⟩, rfl, _, List.mem_singleton_self _, rfl⟩
  exact ⟨_, rfl, hundone.ids, hundone.removed, herror.trans (congrArg _ (hfault fault herror).1)⟩

end PodMesh.Cluster
