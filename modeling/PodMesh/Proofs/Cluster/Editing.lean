import PodMesh.Proofs.Cluster.Listings

/-!
# Editing clusters

Pods are added, removed and changed one at a time, and each such edit changes a single listing of
a namespace or makes a new one (`Change`). No edit brings a pod into a namespace that is not its
own, however many there are (`Placed.after_edits`). Whether identities stay different depends on
how namespaces are listed. If each is listed once, they do (`Proper.after_edits`). Of a namespace
that is listed twice only the first listing is looked at, so that a pod can be added that a later
listing has already (`addPod_repeats_identity`).
-/

namespace PodMesh.Cluster

variable {c c' : Cluster} {id : Identity} {pod : Pod} {ns : String} {change : Pod → Pod}

/-! ## One edit -/

/-- What an edit that succeeds does to a cluster, if it changes the identity of no pod. -/
inductive Change : Cluster → Cluster → Prop where
  /-- A pod comes last in the first listing of its namespace, which has none of its name. -/
  | add {before after : List Namespace} {pods : List Pod} {domain : String} (pod : Pod) :
      (∀ m ∈ before, m.name ≠ pod.ns) → (∀ p ∈ pods, p.name ≠ pod.name) →
      Change ⟨before ++ ⟨pod.ns, pods⟩ :: after, domain⟩
        ⟨before ++ ⟨pod.ns, pods ++ [pod]⟩ :: after, domain⟩
  /-- A pod comes into a namespace that was not listed. -/
  | found {namespaces : List Namespace} {domain : String} (pod : Pod) :
      (∀ n ∈ namespaces, n.name ≠ pod.ns) →
      Change ⟨namespaces, domain⟩ ⟨namespaces ++ [⟨pod.ns, [pod]⟩], domain⟩
  /-- A pod leaves the listing that it is in. -/
  | remove {before after : List Namespace} {ns domain : String} {left right : List Pod}
      (pod : Pod) :
      Change ⟨before ++ ⟨ns, left ++ pod :: right⟩ :: after, domain⟩
        ⟨before ++ ⟨ns, left ++ right⟩ :: after, domain⟩
  /-- A pod takes the place of one that has its identity. -/
  | modify {before after : List Namespace} {ns domain : String} {left right : List Pod}
      (pod pod' : Pod) : pod'.id = pod.id →
      Change ⟨before ++ ⟨ns, left ++ pod :: right⟩ :: after, domain⟩
        ⟨before ++ ⟨ns, left ++ pod' :: right⟩ :: after, domain⟩

theorem change_addPod (h : c.addPod pod ns = .ok c') : Change c c' := by
  obtain ⟨namespaces, domain⟩ := c
  rcases addPod_eq_ok h with ⟨before, pods, after, heq, rfl, hbefore, hnames⟩ | ⟨hnone, rfl⟩
  · obtain rfl : namespaces = _ := heq
    exact .add { pod with ns } hbefore hnames
  · exact .found { pod with ns } hnone

theorem change_removePod (h : c.removePod id = .ok (pod, c')) : Change c c' := by
  obtain ⟨namespaces, domain⟩ := c
  obtain ⟨before, left, right, after, heq, rfl, -⟩ := removePod_eq_ok h
  obtain rfl : namespaces = _ := heq
  exact .remove pod

theorem change_modify? (hkeep : ∀ p, (change p).id = p.id) (h : c.modify? id change = some c') :
    Change c c' := by
  obtain ⟨namespaces, domain⟩ := c
  obtain ⟨before, left, p, right, after, heq, rfl, -⟩ := modify?_eq_some h
  obtain rfl : namespaces = _ := heq
  exact .modify p (change p) (hkeep p)

/-! ## What one edit preserves -/

theorem Change.placed (h : Change c c') (hc : c.Placed) : c'.Placed := by
  cases h with
  | add pod _ _ =>
    obtain ⟨hbefore, hown, hafter⟩ := placed_append_cons.mp hc
    exact placed_append_cons.mpr ⟨hbefore,
      List.forall_mem_append.mpr ⟨hown, List.forall_mem_singleton.mpr rfl⟩, hafter⟩
  | found pod _ =>
    refine List.forall_mem_append.mpr ⟨hc, List.forall_mem_singleton.mpr ?_⟩
    exact List.forall_mem_singleton.mpr rfl
  | remove pod =>
    obtain ⟨hbefore, hown, hafter⟩ := placed_append_cons.mp hc
    obtain ⟨hleft, hright⟩ := List.forall_mem_append.mp hown
    exact placed_append_cons.mpr ⟨hbefore,
      List.forall_mem_append.mpr ⟨hleft, (List.forall_mem_cons.mp hright).2⟩, hafter⟩
  | modify pod pod' hid =>
    obtain ⟨hbefore, hown, hafter⟩ := placed_append_cons.mp hc
    obtain ⟨hleft, hright⟩ := List.forall_mem_append.mp hown
    obtain ⟨hpod, hright⟩ := List.forall_mem_cons.mp hright
    have hpod' : pod'.ns = pod.ns := congrArg Identity.ns hid
    exact placed_append_cons.mpr ⟨hbefore, List.forall_mem_append.mpr
      ⟨hleft, List.forall_mem_cons.mpr ⟨hpod'.trans hpod, hright⟩⟩, hafter⟩

theorem Change.listedOnce (h : Change c c') (hc : c.ListedOnce) : c'.ListedOnce := by
  cases h with
  | add | remove | modify => simpa only [ListedOnce, List.map_append, List.map_cons] using hc
  | found pod hnone =>
    rw [ListedOnce, List.map_append, List.nodup_append]
    refine ⟨hc, List.nodup_singleton _, ?_⟩
    intro name hname name' hname'
    obtain ⟨n, hn, rfl⟩ := List.mem_map.mp hname
    obtain rfl := List.mem_singleton.mp hname'
    exact hnone n hn

/-- A pod that comes is new if no later listing has its namespace. -/
theorem Change.ids_nodup (h : Change c c') (hc : c.Proper) (honce : c.ListedOnce) :
    c'.ids.Nodup := by
  have hids := hc.ids_nodup
  cases h with
  | @add before after pods domain pod _ hnames =>
    have hnew : pod.id ∉ (⟨before ++ ⟨pod.ns, pods⟩ :: after, domain⟩ : Cluster).ids := by
      intro hmem
      obtain ⟨m, hm, hname, p, hp, hpname⟩ := (mem_ids hc.placed).mp hmem
      -- The listing that was looked at is the only one of that name.
      obtain rfl : m = ⟨pod.ns, pods⟩ :=
        List.inj_on_of_nodup_map honce hm List.mem_append_cons_self hname
      exact hnames p hp hpname
    exact ids_add_perm.nodup_iff.mpr (List.nodup_cons.mpr ⟨hnew, hids⟩)
  | @found namespaces domain pod hnone =>
    have hnew : pod.id ∉ (⟨namespaces, domain⟩ : Cluster).ids := by
      intro hmem
      -- It would be in a listing of its namespace, and there is none.
      obtain ⟨m, hm, hname, -⟩ := (mem_ids hc.placed).mp hmem
      exact hnone m hm hname
    exact ids_found_perm.nodup_iff.mpr (List.nodup_cons.mpr ⟨hnew, hids⟩)
  | remove pod => exact (List.nodup_cons.mp (ids_with_perm.nodup_iff.mp hids)).2
  | modify pod pod' hid =>
    rw [ids_with_perm.nodup_iff] at hids ⊢
    rwa [hid]

theorem Change.proper (h : Change c c') (hc : c.Proper) (honce : c.ListedOnce) : c'.Proper :=
  ⟨h.placed hc.placed, h.ids_nodup hc honce⟩

/-! ## Any number of edits -/

/-- An edit of single pods. -/
inductive Edit where
  | add (pod : Pod) (ns : String)
  | remove (id : Identity)
  | modify (id : Identity) (change : Pod → Pod)

/-- The edit changes the identity of no pod. -/
def Edit.KeepsIdentity : Edit → Prop
  | .add .. | .remove _ => True
  | .modify _ change => ∀ p, (change p).id = p.id

/-- The cluster after an edit. One that fails changes nothing. -/
def edited (c : Cluster) : Edit → Cluster
  | .add pod ns =>
    match c.addPod pod ns with
    | .ok c' => c'
    | .error _ => c
  | .remove id =>
    match c.removePod id with
    | .ok (_, c') => c'
    | .error _ => c
  | .modify id change => (c.modify? id change).getD c

variable {e : Edit} {edits : List Edit}

theorem change_edited (hkeep : e.KeepsIdentity) : c.edited e = c ∨ Change c (c.edited e) := by
  cases e with
  | add pod ns =>
    rw [edited]
    split
    · rename_i c' h
      exact .inr (change_addPod h)
    · exact .inl rfl
  | remove id =>
    rw [edited]
    split
    · rename_i pod c' h
      exact .inr (change_removePod h)
    · exact .inl rfl
  | modify id change =>
    rw [edited]
    cases h : c.modify? id change with
    | none => exact .inl rfl
    | some c' => exact .inr (change_modify? hkeep h)

/-- What changes preserve, any number of edits does. -/
theorem edits_preserve {Kept : Cluster → Prop} (hstep : ∀ {c c'}, Change c c' → Kept c → Kept c')
    (hkeep : ∀ e ∈ edits, e.KeepsIdentity) (hc : Kept c) : Kept (edits.foldl edited c) := by
  induction edits generalizing c with
  | nil => exact hc
  | cons e rest ih =>
    obtain ⟨he, hrest⟩ := List.forall_mem_cons.mp hkeep
    rw [List.foldl_cons]
    refine ih hrest ?_
    rcases change_edited he with hsame | hchange
    · rwa [hsame]
    · exact hstep hchange hc

/-- **Whatever is edited, every pod belongs to the namespace that lists it.** -/
theorem Placed.after_edits (hc : c.Placed) (hkeep : ∀ e ∈ edits, e.KeepsIdentity) :
    (edits.foldl edited c).Placed :=
  edits_preserve Change.placed hkeep hc

/-- **Where no namespace is listed twice, identities stay different, whatever is edited.** -/
theorem Proper.after_edits (hc : c.Proper) (honce : c.ListedOnce)
    (hkeep : ∀ e ∈ edits, e.KeepsIdentity) : (edits.foldl edited c).Proper := by
  have hstep : ∀ {c c' : Cluster}, Change c c' → c.Proper ∧ c.ListedOnce →
      c'.Proper ∧ c'.ListedOnce :=
    fun h hc => ⟨h.proper hc.1 hc.2, h.listedOnce hc.2⟩
  exact (edits_preserve hstep hkeep ⟨hc, honce⟩).1

/-! ## Namespaces that are listed twice -/

theorem addPod_ids_perm (h : c.addPod pod ns = .ok c') :
    c'.ids.Perm (⟨ns, pod.name⟩ :: c.ids) := by
  obtain ⟨namespaces, domain⟩ := c
  rcases addPod_eq_ok h with ⟨before, pods, after, heq, rfl, -⟩ | ⟨-, rfl⟩
  · obtain rfl : namespaces = _ := heq
    exact ids_add_perm
  · exact ids_found_perm

/-- **Adding a pod makes an identity repeat exactly where some listing has it already.** -/
theorem Proper.addPod_proper_iff (hc : c.Proper) (h : c.addPod pod ns = .ok c') :
    c'.Proper ↔ ⟨ns, pod.name⟩ ∉ c.ids := by
  have hids : c'.ids.Nodup ↔ ⟨ns, pod.name⟩ ∉ c.ids := by
    rw [(addPod_ids_perm h).nodup_iff, List.nodup_cons]
    exact and_iff_left hc.ids_nodup
  constructor
  · intro hc'
    exact hids.mp hc'.ids_nodup
  · intro hnew
    exact ⟨(change_addPod h).placed hc.placed, hids.mpr hnew⟩

/-- **The first listing has no pod of that name, so a second one of that identity is added.** -/
theorem addPod_repeats_identity :
    ∃ c, listedTwice.addPod { name := "a" } "x" = .ok c ∧ c.ids = [⟨"x", "a"⟩, ⟨"x", "a"⟩] :=
  ⟨_, rfl, by decide⟩

end PodMesh.Cluster
