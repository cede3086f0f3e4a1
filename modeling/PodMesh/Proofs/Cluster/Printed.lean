import Mathlib.Data.List.Nodup
import PodMesh.Proofs.Cluster.Listings
import PodMesh.Proofs.Matrix
import PodMesh.Proofs.Text.Separated

/-!
# Identities that are printed alike

A cluster tells its pods apart by namespace and name, a matrix by their printed form. The two differ
where a slash is part of a namespace: what is printed then does not say which slash parts the
namespace from the name, and two identities can be split from one text at different slashes
(`Identity.text_eq_iff`). A cluster with such pods is put together, and no matrix can be made over
it (`make_refuses_slashed`). These are the only clusters that this happens to
(`ofNamespaces_makes_iff`), so it does not where namespaces have no slashes
(`ofNamespaces_makes_of_no_slash`).
-/

namespace PodMesh

/-! ## One printed form, two identities -/

namespace Identity

variable {a b : Identity}

/-- Two identities are printed alike, and the first takes into its name, up to a slash, what the
second has in its namespace. -/
def SplitsBefore (a b : Identity) : Prop :=
  ∃ between, b.ns = a.ns ++ "/" ++ between ∧ a.name = between ++ "/" ++ b.name

theorem toList_text (id : Identity) : id.text.toList = id.ns.toList ++ '/' :: id.name.toList := by
  rw [text, String.toList_append, String.toList_append, List.append_assoc]
  rfl

theorem SplitsBefore.text_eq (h : a.SplitsBefore b) : a.text = b.text :=
  Text.SplitsBefore.append_eq h

theorem not_splitsBefore_self (id : Identity) : ¬ id.SplitsBefore id := by
  rintro ⟨between, hns, _⟩
  have hlength := congrArg String.length hns
  rw [String.length_append, String.length_append] at hlength
  have hslash : "/".length = 1 := rfl
  omega

/-- **Identities are printed alike if they are the same, or split one text at two slashes.** -/
theorem text_eq_iff : a.text = b.text ↔ a = b ∨ a.SplitsBefore b ∨ b.SplitsBefore a := by
  have hparts : a = b ↔ a.ns = b.ns ∧ a.name = b.name := by
    obtain ⟨ns, name⟩ := a
    obtain ⟨ns', name'⟩ := b
    rw [Identity.mk.injEq]
  rw [hparts]
  exact Text.append_mark_eq_iff rfl

/-- A namespace that is split behind an earlier slash has that slash. -/
theorem SplitsBefore.slash_mem (h : a.SplitsBefore b) : '/' ∈ b.ns.toList := by
  obtain ⟨between, hns, _⟩ := h
  rw [hns, String.toList_append, String.toList_append]
  exact List.mem_append_left _ (List.mem_append_right _ List.mem_cons_self)

/-- **Where namespaces have no slash, an identity is known by its printed form.** -/
theorem text_inj_of_no_slash (ha : '/' ∉ a.ns.toList) (hb : '/' ∉ b.ns.toList) :
    a.text = b.text ↔ a = b := by
  rw [text_eq_iff]
  refine or_iff_left ?_
  rintro (h | h)
  · exact hb h.slash_mem
  · exact ha h.slash_mem

/-- Different identities are printed differently just if no two of them split one text. -/
theorem map_text_nodup_iff {ids : List Identity} (hids : ids.Nodup) :
    (ids.map text).Nodup ↔ ∀ a ∈ ids, ∀ b ∈ ids, ¬ a.SplitsBefore b := by
  rw [List.nodup_map_iff_inj_on hids]
  constructor
  · intro hinj a ha b hb h
    obtain rfl := hinj a ha b hb h.text_eq
    exact not_splitsBefore_self a h
  · intro hnone a ha b hb htext
    rcases text_eq_iff.mp htext with heq | h | h
    · exact heq
    · exact absurd h (hnone a ha b hb)
    · exact absurd h (hnone b hb a ha)

end Identity

/-! ## Matrices over what is printed -/

theorem Table.square_eq_error_iff {keys : List String} {default : Option Bool} {fault : Fault} :
    square keys default = .error fault ↔ ∃ key, fault = .duplicate key ∧ FirstRepeat keys key := by
  rw [square, make_eq_error_iff]
  refine exists_congr fun key => and_congr_right fun _ => ?_
  exact or_iff_left_of_imp And.right

/-- Each pair of some pods has a cell that no other pair of them has. -/
def Table.OwnCells (t : Table) (pods : List Identity) : Prop :=
  ∀ p ∈ pods, ∀ q ∈ pods, ∃ i, t.cell p.text q.text = .ok i ∧
    ∀ p' ∈ pods, ∀ q' ∈ pods, t.cell p'.text q'.text = .ok i → p' = p ∧ q' = q

theorem Table.ownCells {t : Table} {pods : List Identity}
    (hsources : t.sources = pods.map Identity.text)
    (htargets : t.targets = pods.map Identity.text) : t.OwnCells pods := by
  have hkeys : (pods.map Identity.text).Nodup := hsources ▸ t.sources_nodup
  intro p hp q hq
  obtain ⟨i, hi⟩ := exists_cell (t := t) (hsources ▸ List.mem_map_of_mem hp)
    (htargets ▸ List.mem_map_of_mem hq)
  refine ⟨i, hi, fun p' hp' q' hq' hi' => ?_⟩
  obtain ⟨hsource, htarget⟩ := cell_inj hi hi'
  exact ⟨List.inj_on_of_nodup_map hkeys hp' hp hsource,
    List.inj_on_of_nodup_map hkeys hq' hq htarget⟩

namespace Matrix

variable {m : Matrix} {pods : List Identity} {default : Bool}

theorem make_eq_error {key : String} (h : FirstRepeat (pods.map Identity.text) key) :
    make pods default = .error (.duplicate key) := by
  have hexpected : Table.square (pods.map Identity.text) (some default) =
      .error (.duplicate key) := Table.square_eq_error_iff.mpr ⟨key, rfl, h⟩
  rw [make, hexpected]
  rfl

/-- **A matrix is refused for the first printed form that repeats.** -/
theorem make_eq_error_iff {fault : Fault} : make pods default = .error fault ↔
    ∃ key, fault = .duplicate key ∧ FirstRepeat (pods.map Identity.text) key := by
  constructor
  · intro h
    cases hrepeat : firstRepeat? (pods.map Identity.text) with
    | none =>
      obtain ⟨m, hm⟩ := exists_make (firstRepeat?_eq_none.mp hrepeat) default
      cases hm.symm.trans h
    | some key =>
      have hfirst := firstRepeat?_eq_some.mp hrepeat
      exact ⟨key, Except.error.inj (h.symm.trans (make_eq_error hfirst)), hfirst⟩
  · rintro ⟨key, rfl, h⟩
    exact make_eq_error h

/-- **A matrix can be made over pods just if they are all printed differently.** -/
theorem exists_make_iff : (∃ m, make pods default = .ok m) ↔ (pods.map Identity.text).Nodup := by
  constructor
  · rintro ⟨m, h⟩
    have hkeys := (sound_make h).keys_nodup
    rwa [keys, (make_eq_ok h).1] at hkeys
  · exact fun h => exists_make h default

end Matrix

/-! ## Clusters -/

namespace Cluster

variable {c : Cluster} {namespaces : List Namespace} {domain : String} {default : Bool}

/-- **A matrix can be made over a cluster that was put together, unless two of its pods split one
printed form.** -/
theorem ofNamespaces_makes_iff (h : ofNamespaces namespaces domain = .ok c) :
    (∃ m, Matrix.make c.ids default = .ok m) ↔
      ∀ a ∈ c.ids, ∀ b ∈ c.ids, ¬ a.SplitsBefore b := by
  rw [Matrix.exists_make_iff, Identity.map_text_nodup_iff (ofNamespaces_proper h).ids_nodup]

/-- The namespace of a pod is one of those that the cluster was put together of. -/
theorem ns_of_mem_ids (h : ofNamespaces namespaces domain = .ok c) {id : Identity}
    (hid : id ∈ c.ids) : ∃ n ∈ namespaces, n.name = id.ns := by
  obtain ⟨n, hn, hname, _⟩ := (mem_ids (ofNamespaces_proper h).placed).mp hid
  rw [ofNamespaces_eq_ok h] at hn
  obtain ⟨listed, hlisted, rfl⟩ := List.mem_map.mp hn
  exact ⟨listed, hlisted, hname⟩

/-- **Where no namespace has a slash, a matrix can be made, and each pair of pods has a cell of its
own.** -/
theorem ofNamespaces_makes_of_no_slash (h : ofNamespaces namespaces domain = .ok c)
    (hns : ∀ n ∈ namespaces, '/' ∉ n.name.toList) (default : Bool) :
    (c.ids.map Identity.text).Nodup ∧ ∃ m, Matrix.make c.ids default = .ok m ∧
      m.expected.OwnCells c.ids ∧ m.observed.OwnCells c.ids := by
  have hnone : ∀ a ∈ c.ids, ∀ b ∈ c.ids, ¬ a.SplitsBefore b := by
    intro a _ b hb hsplits
    obtain ⟨n, hn, hname⟩ := ns_of_mem_ids h hb
    exact hns n hn (hname ▸ hsplits.slash_mem)
  obtain ⟨m, hm⟩ : ∃ m, Matrix.make c.ids default = .ok m := (ofNamespaces_makes_iff h).mpr hnone
  have hs := Matrix.sound_make hm
  have hkeys : m.keys = c.ids.map Identity.text := by rw [Matrix.keys, (Matrix.make_eq_ok hm).1]
  exact ⟨Matrix.exists_make_iff.mp ⟨m, hm⟩, m, hm,
    Table.ownCells (hs.expected_sources.trans hkeys) (hs.expected_targets.trans hkeys),
    Table.ownCells (hs.observed_sources.trans hkeys) (hs.observed_targets.trans hkeys)⟩

/-- Two pods that differ, one with a slash in its name and one with a slash in its namespace. -/
def slashed : Cluster :=
  ⟨[⟨"a", [{ ns := "a", name := "b/c" }]⟩, ⟨"a/b", [{ ns := "a/b", name := "c" }]⟩], "d"⟩

theorem ofNamespaces_slashed :
    ofNamespaces [⟨"a", [{ name := "b/c" }]⟩, ⟨"a/b", [{ name := "c" }]⟩] "d" = .ok slashed := by
  decide

/-- **Two pods of a cluster that was put together are printed alike, and whatever is expected, no
matrix can be made over it.** -/
theorem make_refuses_slashed : slashed.ids.Nodup ∧
    slashed.ids.map Identity.text = ["a/b/c", "a/b/c"] ∧
    ∀ default, Matrix.make slashed.ids default = .error (.duplicate "a/b/c") := by
  have htexts : slashed.ids.map Identity.text = ["a/b/c", "a/b/c"] := by decide
  have hrepeat : FirstRepeat (slashed.ids.map Identity.text) "a/b/c" := by
    rw [htexts]
    exact ⟨["a/b/c"], [], rfl, by decide, by decide⟩
  exact ⟨by decide, htexts, fun default => Matrix.make_eq_error_iff.mpr ⟨"a/b/c", rfl, hrepeat⟩⟩

end Cluster

end PodMesh
