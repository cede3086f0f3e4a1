import Mathlib.Data.List.Nodup
import PodMesh.Proofs.Cluster.Listings

/-!
# Clusters of every pod in every namespace

A cluster can be built from a list of namespaces and a list of pod names. It has a pod of each name
in each namespace, so it is refused just if one of the two lists repeats something that meets
anything in the other (`nodup_product_iff`). What the pods of any cluster serve is listed once, in
the order in which it is first seen (`FirstSeen`). In a cluster that was built, every pod serves the
same, and within one pod each port comes with each protocol. All these repetitions fall away again,
so that the ports and protocols of the cluster are those it was built of
(`build_makes_product`).
-/

namespace PodMesh.Cluster

/-! ## Elements in the order they are first seen -/

section FirstSeen

variable {α β : Type} [DecidableEq α] {x : α} {seen l l' d d' : List α}

/-- The elements of a list, each once, in the order in which they first occur in it. -/
structure FirstSeen (l d : List α) : Prop where
  /-- Nothing is listed twice. -/
  nodup : d.Nodup
  /-- What occurs is listed, and nothing else. -/
  mem_iff : ∀ x, x ∈ d ↔ x ∈ l
  /-- What occurs earlier is listed earlier. -/
  order : d.Pairwise fun x y => l.idxOf x < l.idxOf y

/-- Only one list has the elements of another in the order in which they are first seen. -/
theorem FirstSeen.unique (h : FirstSeen l d) (h' : FirstSeen l d') : d = d' := by
  have hperm : d.Perm d' := (List.perm_ext_iff_of_nodup h.nodup h'.nodup).mpr fun x =>
    (h.mem_iff x).trans (h'.mem_iff x).symm
  refine hperm.eq_of_pairwise ?_ h.order h'.order
  intro x y _ _ hxy hyx
  exact absurd hyx (Nat.lt_asymm hxy)

namespace distinct

theorem ne_of_mem_go {a : α} (ha : a ∈ seen) (hx : x ∈ go seen l) : a ≠ x := by
  rintro rfl
  exact (mem_go.mp hx).2 ha

/-- Of two elements that are kept, the one that is kept first occurs first. -/
theorem pairwise_go : (go seen l).Pairwise fun x y => l.idxOf x < l.idxOf y := by
  induction l generalizing seen with
  | nil => exact .nil
  | cons a l ih =>
    -- what is kept of the rest is not `a`, so both its places move up by one
    have hrest : ∀ {seen : List α}, a ∈ seen →
        (go seen l).Pairwise fun x y => (a :: l).idxOf x < (a :: l).idxOf y := by
      intro seen ha
      refine ih.imp_of_mem fun {x y} hx hy hxy => ?_
      rw [List.idxOf_cons_ne _ (ne_of_mem_go ha hx), List.idxOf_cons_ne _ (ne_of_mem_go ha hy)]
      exact Nat.succ_lt_succ hxy
    by_cases ha : a ∈ seen
    · rw [go, if_pos ha]
      exact hrest ha
    · rw [go, if_neg ha, List.pairwise_cons]
      refine ⟨fun y hy => ?_, hrest List.mem_cons_self⟩
      rw [List.idxOf_cons_self, List.idxOf_cons_ne _ (ne_of_mem_go List.mem_cons_self hy)]
      exact Nat.succ_pos _

/-- Nothing is kept of what was seen before. -/
theorem go_append_left (h : l ⊆ seen) : go seen (l ++ l') = go seen l' := by
  induction l with
  | nil => rfl
  | cons x l ih =>
    obtain ⟨hx, hl⟩ := List.cons_subset.mp h
    rw [List.cons_append, go, if_pos hx, ih hl]

/-- Nothing is kept of an end that only repeats what stands before it. -/
theorem go_append_right (h : l' ⊆ l ++ seen) : go seen (l ++ l') = go seen l := by
  induction l generalizing seen with
  | nil =>
    have hdrop : go seen (l' ++ []) = go seen [] := go_append_left h
    rwa [List.append_nil] at hdrop
  | cons x l ih =>
    rw [List.cons_append, go, go]
    by_cases hx : x ∈ seen
    · rw [if_pos hx, if_pos hx, ih]
      intro y hy
      rcases List.mem_cons.mp (h hy) with rfl | hmem
      · exact List.mem_append_right _ hx
      · exact hmem
    · rw [if_neg hx, if_neg hx, ih]
      exact List.Subset.trans h List.perm_middle.symm.subset

/-- An element that is repeated at its place counts once there. -/
theorem go_flatMap_map_const {reps : List β} (h : reps ≠ []) :
    go seen (l.flatMap fun x => reps.map fun _ => x) = go seen l := by
  obtain ⟨b, reps, rfl⟩ := List.exists_cons_of_ne_nil h
  induction l generalizing seen with
  | nil => rfl
  | cons x l ih =>
    have hreps : ∀ {seen : List α}, x ∈ seen → reps.map (fun _ => x) ⊆ seen := by
      intro seen hx y hy
      obtain ⟨_, _, rfl⟩ := List.mem_map.mp hy
      exact hx
    rw [List.flatMap_cons, List.map_cons, List.cons_append, go, go]
    by_cases hx : x ∈ seen
    · rw [if_pos hx, if_pos hx, go_append_left (hreps hx), ih]
    · rw [if_neg hx, if_neg hx, go_append_left (hreps List.mem_cons_self), ih]

end distinct

/-- **The distinct elements of a list stand in the order in which they are first seen.** -/
theorem firstSeen_distinct (l : List α) : FirstSeen l (distinct l) :=
  ⟨nodup_distinct l, fun _ => mem_distinct, distinct.pairwise_go⟩

/-- A list that is repeated as a whole has the same distinct elements. -/
theorem distinct_flatMap_const {reps : List β} (h : reps ≠ []) :
    distinct (reps.flatMap fun _ => l) = distinct l := by
  obtain ⟨b, reps, rfl⟩ := List.exists_cons_of_ne_nil h
  rw [List.flatMap_cons, distinct, distinct.go_append_right]
  intro x hx
  obtain ⟨_, _, hx⟩ := List.mem_flatMap.mp hx
  exact List.mem_append_left _ hx

theorem distinct_flatMap_map_const {reps : List β} (h : reps ≠ []) :
    distinct (l.flatMap fun x => reps.map fun _ => x) = distinct l :=
  distinct.go_flatMap_map_const h

omit [DecidableEq α] in
/-- A test on repeated elements is a test on the elements. -/
theorem filter_flatMap_map_const (reps : List β) (test : α → Bool) :
    (l.flatMap fun x => reps.map fun _ => x).filter test =
      (l.filter test).flatMap fun x => reps.map fun _ => x := by
  induction l with
  | nil => rfl
  | cons x l ih =>
    rw [List.flatMap_cons, List.filter_append, ih, List.filter_map, List.filter_cons]
    cases hx : test x <;> simp [Function.comp_def, hx]

end FirstSeen

/-- **What a cluster serves is listed in the order in which it is first seen.** -/
theorem firstSeen_ports (c : Cluster) :
    FirstSeen ((c.containers.map Container.port).filter (· ≠ 0)) c.ports :=
  firstSeen_distinct _

theorem firstSeen_protocols (c : Cluster) :
    FirstSeen (c.containers.map Container.protocol) c.protocols :=
  firstSeen_distinct _

/-! ## The product -/

variable {c : Cluster} {fault : Fault} {namespaces pods : List String} {ports : List UInt16}
  {protocols : List Protocol} {domain : String}

/-- Every name in every namespace, namespace by namespace. -/
def product (namespaces pods : List String) : List Identity :=
  namespaces.flatMap fun ns => pods.map fun name => ⟨ns, name⟩

/-- A container for every port over every protocol, port by port. -/
def containersFor (ports : List UInt16) (protocols : List Protocol) : List Container :=
  ports.flatMap fun port => protocols.map fun protocol => { port, protocol }

theorem row_nodup_iff (ns : String) :
    (pods.map fun name => (⟨ns, name⟩ : Identity)).Nodup ↔ pods.Nodup :=
  List.nodup_map_iff fun _ _ h => congrArg Identity.name h

/-- The rows of one namespace share all they have, the rows of two namespaces nothing. -/
theorem rows_disjoint_iff {ns ns' : String} (h : pods ≠ []) :
    List.Disjoint (pods.map fun name => (⟨ns, name⟩ : Identity))
      (pods.map fun name => ⟨ns', name⟩) ↔ ns ≠ ns' := by
  constructor
  · rintro hdisjoint rfl
    obtain ⟨name, hname⟩ := List.exists_mem_of_ne_nil pods h
    have hmem := List.mem_map_of_mem (f := fun name => (⟨ns, name⟩ : Identity)) hname
    exact hdisjoint hmem hmem
  · intro hne id hmem hmem'
    obtain ⟨_, _, rfl⟩ := List.mem_map.mp hmem
    obtain ⟨_, _, heq⟩ := List.mem_map.mp hmem'
    exact hne (congrArg Identity.ns heq).symm

/-- **The product repeats something where a factor does, unless the other factor is empty.** -/
theorem nodup_product_iff : (product namespaces pods).Nodup ↔
    ¬ (pods ≠ [] ∧ ¬ namespaces.Nodup ∨ namespaces ≠ [] ∧ ¬ pods.Nodup) := by
  by_cases hpods : pods = []
  · have hnil : product namespaces pods = [] := by
      rw [product, hpods]
      exact List.flatMap_eq_nil_iff.mpr fun _ _ => rfl
    rw [hnil]
    simp [hpods]
  by_cases hnamespaces : namespaces = []
  · simp [hnamespaces, product]
  have hrows : (∀ ns ∈ namespaces, (pods.map fun name => (⟨ns, name⟩ : Identity)).Nodup) ↔
      pods.Nodup := by
    obtain ⟨ns, hns⟩ := List.exists_mem_of_ne_nil namespaces hnamespaces
    simp only [row_nodup_iff]
    exact ⟨fun h => h ns hns, fun h _ _ => h⟩
  have hapart : namespaces.Pairwise (Function.onFun List.Disjoint fun ns =>
      pods.map fun name => (⟨ns, name⟩ : Identity)) ↔ namespaces.Nodup := by
    exact List.Pairwise.iff fun ns ns' => rows_disjoint_iff hpods
  rw [product, List.nodup_flatMap, hrows, hapart]
  tauto

/-! ## Building -/

/-- Putting a cluster together is refused for the first identity that repeats. -/
theorem ofNamespaces_eq_error_iff {listed : List Namespace} :
    ofNamespaces listed domain = .error fault ↔
      ∃ id, FirstRepeat (⟨listed.map Namespace.adopt, domain⟩ : Cluster).ids id ∧
        fault = .duplicate id.text := by
  simp only [← firstRepeat?_eq_some]
  unfold ofNamespaces
  dsimp only
  cases firstRepeat? (⟨listed.map Namespace.adopt, domain⟩ : Cluster).ids with
  | none => simp
  | some id => simp [eq_comm]

/-- What is put together when a cluster is built. -/
theorem ids_built (namespaces pods : List String) (ports : List UInt16)
    (protocols : List Protocol) (domain : String) :
    (⟨(namespaces.map fun ns => (⟨ns, pods.map fun name =>
      { ns, name, containers := containersFor ports protocols }⟩ : Namespace)).map Namespace.adopt,
        domain⟩ : Cluster).ids = product namespaces pods := by
  simp [ids, Cluster.pods, product, Namespace.adopt, Pod.id, List.flatMap_map, List.map_flatMap,
    Function.comp_def]

/-- **A cluster that is built is refused for the first identity that repeats in the product.** -/
theorem build_eq_error_iff : build namespaces pods ports protocols domain = .error fault ↔
    ∃ id, FirstRepeat (product namespaces pods) id ∧ fault = .duplicate id.text := by
  rw [← ids_built namespaces pods ports protocols domain]
  exact ofNamespaces_eq_error_iff

theorem ids_of_build (h : build namespaces pods ports protocols domain = .ok c) :
    c.ids = product namespaces pods := by
  rw [ofNamespaces_eq_ok h]
  exact ids_built namespaces pods ports protocols domain

/-- All pods of a cluster that was built serve the same. -/
theorem all_containers_of_build (h : build namespaces pods ports protocols domain = .ok c) :
    c.containers = c.pods.flatMap fun _ => containersFor ports protocols :=
  List.flatMap_congr fun _ hpod => containers_of_build h hpod

/-- Every pod in every namespace, each with a container for every port over every protocol. -/
structure IsProduct (c : Cluster) (namespaces pods : List String) (ports : List UInt16)
    (protocols : List Protocol) : Prop where
  /-- The pods go namespace by namespace. -/
  ids_eq : c.ids = product namespaces pods
  /-- The containers of each pod go port by port. -/
  containers_eq : ∀ pod ∈ c.pods, pod.containers = containersFor ports protocols
  /-- The ports that are served are those given, port 0 and repetitions left out. -/
  firstSeen_ports : namespaces ≠ [] → pods ≠ [] → protocols ≠ [] →
    FirstSeen (ports.filter (· ≠ 0)) c.ports
  /-- The protocols that are served are those given, repetitions left out. -/
  firstSeen_protocols : namespaces ≠ [] → pods ≠ [] → ports ≠ [] →
    FirstSeen protocols c.protocols

theorem isProduct_of_build (h : build namespaces pods ports protocols domain = .ok c) :
    IsProduct c namespaces pods ports protocols := by
  have hall := all_containers_of_build h
  have hids := ids_of_build h
  have hne : namespaces ≠ [] → pods ≠ [] → c.pods ≠ [] := by
    intro hnamespaces hpods hnil
    rw [Cluster.ids, hnil, List.map_nil, product, eq_comm, List.flatMap_eq_nil_iff] at hids
    obtain ⟨ns, rest, rfl⟩ := List.exists_cons_of_ne_nil hnamespaces
    exact hpods (List.map_eq_nil_iff.mp (hids ns List.mem_cons_self))
  refine ⟨hids, fun pod hpod => containers_of_build h hpod, ?_, ?_⟩
  · intro hnamespaces hpods hprotocols
    -- the row of one pod has each port once for every protocol
    have hrow : (containersFor ports protocols).map Container.port =
        ports.flatMap fun port => protocols.map fun _ => port := by
      simp [containersFor, List.map_flatMap, Function.comp_def]
    have hports : c.ports = distinct (ports.filter (· ≠ 0)) := by
      rw [Cluster.ports, hall, List.map_flatMap, List.filter_flatMap,
        distinct_flatMap_const (hne hnamespaces hpods), hrow, filter_flatMap_map_const,
        distinct_flatMap_map_const hprotocols]
    rw [hports]
    exact firstSeen_distinct _
  · intro hnamespaces hpods hports
    -- the row of one pod has all protocols once for every port
    have hrow : (containersFor ports protocols).map Container.protocol =
        ports.flatMap fun _ => protocols := by
      simp [containersFor, List.map_flatMap, Function.comp_def]
    have hprotocols : c.protocols = distinct protocols := by
      rw [Cluster.protocols, hall, List.map_flatMap,
        distinct_flatMap_const (hne hnamespaces hpods), hrow, distinct_flatMap_const hports]
    rw [hprotocols]
    exact firstSeen_distinct _

/--
**A cluster is built of every pod in every namespace, and what it serves is what it was built of.**

Building is refused just if a namespace is given twice and there are pods at all, or a pod is given
twice and there are namespaces at all, and then for the first identity that repeats. Otherwise the
cluster is the whole product. Of this cluster and any other, each port but 0 and each protocol that
a container has is listed once, in the order in which they are first seen.
-/
theorem build_makes_product (namespaces pods : List String) (ports : List UInt16)
    (protocols : List Protocol) (domain : String) :
    ((∃ fault, build namespaces pods ports protocols domain = .error fault) ↔
      pods ≠ [] ∧ ¬ namespaces.Nodup ∨ namespaces ≠ [] ∧ ¬ pods.Nodup) ∧
    (∀ fault, build namespaces pods ports protocols domain = .error fault ↔
      ∃ id, FirstRepeat (product namespaces pods) id ∧ fault = .duplicate id.text) ∧
    (∀ c, build namespaces pods ports protocols domain = .ok c →
      IsProduct c namespaces pods ports protocols) ∧
    ∀ c : Cluster, FirstSeen ((c.containers.map Container.port).filter (· ≠ 0)) c.ports ∧
      FirstSeen (c.containers.map Container.protocol) c.protocols := by
  refine ⟨?_, fun fault => build_eq_error_iff, fun c h => isProduct_of_build h, fun c =>
    ⟨firstSeen_ports c, firstSeen_protocols c⟩⟩
  have hrepeats : (∃ fault, build namespaces pods ports protocols domain = .error fault) ↔
      ∃ id, FirstRepeat (product namespaces pods) id := by
    simp only [build_eq_error_iff]
    exact ⟨fun ⟨_, id, h, _⟩ => ⟨id, h⟩, fun ⟨id, h⟩ => ⟨_, id, h, rfl⟩⟩
  rw [hrepeats, ← not_iff_not, ← nodup_product_iff, ← firstRepeat?_eq_none, not_exists]
  simp only [← firstRepeat?_eq_some, Option.eq_none_iff_forall_ne_some, ne_eq]

/-- Port 0 and what is given twice are left out of what is served. A namespace that is given twice
is refused, with the first of its pods. -/
theorem build_makes_product_of_repeated : ∃ c,
    build ["x", "y"] ["a", "b"] [53, 0, 80, 53] [.udp, .tcp, .udp] "d" = .ok c ∧
    IsProduct c ["x", "y"] ["a", "b"] [53, 0, 80, 53] [.udp, .tcp, .udp] ∧
    c.ids = [⟨"x", "a"⟩, ⟨"x", "b"⟩, ⟨"y", "a"⟩, ⟨"y", "b"⟩] ∧
    c.ports = [53, 80] ∧ c.protocols = [.udp, .tcp] ∧
    build ["x", "y", "x"] ["a", "b"] [53] [.udp] "d" = .error (.duplicate "x/a") := by
  have h := build_makes_product ["x", "y"] ["a", "b"] [53, 0, 80, 53] [.udp, .tcp, .udp] "d"
  have h' := build_makes_product ["x", "y", "x"] ["a", "b"] [53] [.udp] "d"
  cases hbuild : build ["x", "y"] ["a", "b"] [53, 0, 80, 53] [.udp, .tcp, .udp] "d" with
  | error fault => exact absurd (h.1.mp ⟨fault, hbuild⟩) (by decide)
  | ok c =>
    have hc := h.2.2.1 c hbuild
    have hports := (hc.firstSeen_ports (by decide) (by decide) (by decide)).unique
      (firstSeen_distinct _)
    have hprotocols := (hc.firstSeen_protocols (by decide) (by decide) (by decide)).unique
      (firstSeen_distinct _)
    have hrepeat : FirstRepeat (product ["x", "y", "x"] ["a", "b"]) ⟨"x", "a"⟩ :=
      firstRepeat?_eq_some.mp (by decide)
    exact ⟨c, rfl, hc, hc.ids_eq, hports.trans (by decide), hprotocols.trans (by decide),
      (h'.2.1 _).mpr ⟨_, hrepeat, by decide⟩⟩

end PodMesh.Cluster
