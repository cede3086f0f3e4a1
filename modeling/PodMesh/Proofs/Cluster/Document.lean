import PodMesh.Proofs.Cluster.Listings
import PodMesh.Proofs.Json.Record

/-!
# Clusters read back from documents

Clusters and all that they are made of are read back from their documents as they were, so a
document that was read and written again does not change any more (`Format.Stable`). The same
holds for a cluster in a file up to one thing: loading puts the cluster together, which moves each
pod into the namespace that lists it, and is refused if two pods then have one identity
(`load_written`).
-/

namespace PodMesh

open Json (Record)
open Json.Field (copies_cons)
open Json.Format (faithful_string faithful_address faithful_bool faithful_word faithful_choice)

/-! ## Formats -/

/-- A string that may be missing is not taken for a missing one. -/
theorem faithful_text? : (Json.Format.nullable .string).Faithful :=
  faithful_string.nullable fun _ h => absurd (Option.some.inj h) (by decide)

theorem faithful_address? : (Json.Format.nullable .address).Faithful :=
  faithful_address.nullable fun _ h => absurd (Option.some.inj h) (by decide)

theorem faithful_word? : (Json.Format.nullable .word).Faithful :=
  faithful_word.nullable fun value h => by
    have hmem : 'n' ∈ Address.inBase 10 value.toNat := List.mem_of_mem_head? h
    exact absurd (Json.Format.isDigit_of_mem_inBase hmem) (by decide)

theorem Protocol.faithful : Protocol.format.Faithful :=
  faithful_choice fun p => by cases p <;> rfl

theorem Identity.faithful : Identity.record.format.Faithful :=
  Record.faithful (by decide)
    (copies_cons faithful_string <|
      copies_cons faithful_string .nil)
    fun _ => rfl

theorem ExternalAddress.faithful : ExternalAddress.record.format.Faithful :=
  Record.faithful (by decide)
    (copies_cons faithful_address <|
      copies_cons Protocol.faithful .nil)
    fun _ => rfl

theorem Container.faithful : Container.record.format.Faithful :=
  Record.faithful (by decide)
    (copies_cons faithful_text? <|
      copies_cons faithful_word <|
      copies_cons Protocol.faithful .nil)
    fun _ => rfl

theorem Pod.faithful : Pod.record.format.Faithful :=
  Record.faithful (by decide)
    (copies_cons faithful_string <|
      copies_cons faithful_string <|
      copies_cons Container.faithful.list <|
      copies_cons faithful_text? <|
      copies_cons faithful_address? <|
      copies_cons faithful_address? <|
      copies_cons faithful_address? <|
      copies_cons ExternalAddress.faithful.list <|
      copies_cons faithful_text? <|
      copies_cons faithful_word? <|
      copies_cons faithful_bool .nil)
    fun _ => rfl

theorem Namespace.faithful : Namespace.record.format.Faithful :=
  Record.faithful (by decide)
    (copies_cons faithful_string <|
      copies_cons Pod.faithful.list .nil)
    fun _ => rfl

namespace Cluster

variable {c c' : Cluster} {files : Host.Files} {path : String}

theorem faithful : record.format.Faithful :=
  Record.faithful (by decide)
    (copies_cons Namespace.faithful.list <|
      copies_cons faithful_string .nil)
    fun _ => rfl

/-! ## Loading -/

/-- The names of the pods, each behind the name of the namespace that lists it. -/
def listedNames (c : Cluster) : List (String × String) :=
  c.namespaces.flatMap fun n => n.pods.map fun p => (n.name, p.name)

/-- The cluster with every pod moved into the namespace that lists it. -/
def settled (c : Cluster) : Cluster where
  namespaces := c.namespaces.map fun n =>
    { n with pods := n.pods.map fun p => { p with ns := n.name } }
  domain := c.domain

theorem ids_settled (c : Cluster) :
    c.settled.ids = c.listedNames.map fun (ns, name) => ⟨ns, name⟩ := by
  simp [ids, pods, settled, listedNames, List.flatMap_map, List.map_flatMap, Pod.id,
    Function.comp_def]

/-- In the settled cluster two pods have one identity if they have one name in one namespace. -/
theorem ids_settled_nodup : c.settled.ids.Nodup ↔ c.listedNames.Nodup := by
  rw [ids_settled]
  refine List.nodup_map_iff fun a b h => ?_
  injection h with hns hname
  exact Prod.ext hns hname

/-- A cluster is put together just if no two pods have one name in one namespace. -/
theorem ofNamespaces_eq (c : Cluster) : ofNamespaces c.namespaces c.domain =
    match firstRepeat? c.settled.ids with
    | some id => .error (.duplicate id.text)
    | none => .ok c.settled :=
  rfl

theorem ofNamespaces_isOk_iff :
    (∃ c', ofNamespaces c.namespaces c.domain = .ok c') ↔ c.listedNames.Nodup := by
  rw [← ids_settled_nodup, ← firstRepeat?_eq_none, ofNamespaces_eq]
  cases firstRepeat? c.settled.ids with
  | none => exact ⟨fun _ => rfl, fun _ => ⟨c.settled, rfl⟩⟩
  | some id => exact ⟨fun ⟨_, h⟩ => (nomatch h), fun h => (nomatch h)⟩

/-- What is loaded from the document of a cluster is the cluster put together. -/
theorem load_written (h : files.read path = .ok (Text.encode (record.format.write c))) :
    (load files path).1 = (ofNamespaces c.namespaces c.domain).mapError .refused := by
  rw [load, h]
  dsimp only
  rw [ofContent, Text.decode_encode, faithful.document]

/--
**What is written is read back.**

Clusters, namespaces, pods, containers, external addresses and identities are read back from their
documents, and documents that were read and written again stay as they are. A cluster is loaded
from a file that holds its document just if no two pods have one name in one namespace. What is
loaded then is that cluster with every pod moved into the namespace that lists it.
-/
theorem written_is_read_back :
    (record.format.Stable ∧ Namespace.record.format.Stable ∧ Pod.record.format.Stable ∧
      Container.record.format.Stable ∧ ExternalAddress.record.format.Stable ∧
      Identity.record.format.Stable) ∧
    ∀ (files : Host.Files) (path : String) (c : Cluster),
      files.read path = .ok (Text.encode (record.format.write c)) →
        ((∃ c', (load files path).1 = .ok c') ↔ c.listedNames.Nodup) ∧
        ∀ c', (load files path).1 = .ok c' → c' = c.settled := by
  refine ⟨⟨faithful.stable, Namespace.faithful.stable, Pod.faithful.stable,
    Container.faithful.stable, ExternalAddress.faithful.stable, Identity.faithful.stable⟩, ?_⟩
  intro files path c h
  rw [load_written h, ← ofNamespaces_isOk_iff]
  cases hof : ofNamespaces c.namespaces c.domain with
  | error fault =>
    exact ⟨⟨fun ⟨_, h⟩ => (nomatch h), fun ⟨_, h⟩ => (nomatch h)⟩, fun _ h => (nomatch h)⟩
  | ok c₁ =>
    refine ⟨⟨fun _ => ⟨c₁, rfl⟩, fun _ => ⟨c₁, rfl⟩⟩, fun c' h => ?_⟩
    have hc' : c₁ = c' := Except.ok.inj h
    rw [← hc']
    exact ofNamespaces_eq_ok hof

/-- A pod that claims another namespace than the one that lists it. -/
def misplaced : Cluster := ⟨[⟨"x", [{ ns := "y", name := "a" }]⟩], "d"⟩

/-- A host with one file. -/
def oneFile (content : List UInt8) : Host.Files := ⟨[], [(["m"], .file content false)]⟩

/-- A pod in a file is loaded into the namespace that lists it, whatever it says itself. -/
theorem written_is_read_back_of_misplaced :
    let files := oneFile (Text.encode (record.format.write misplaced))
    files.read "m" = .ok (Text.encode (record.format.write misplaced)) ∧
      (load files "m").1 = .ok ⟨[⟨"x", [{ ns := "x", name := "a" }]⟩], "d"⟩ := by
  intro files
  have hread : files.read "m" = .ok (Text.encode (record.format.write misplaced)) := rfl
  obtain ⟨hok, heq⟩ := written_is_read_back.2 files "m" misplaced hread
  obtain ⟨c', hload⟩ := hok.mpr (by decide)
  refine ⟨hread, ?_⟩
  rw [hload, heq c' hload]
  rfl

end Cluster

end PodMesh
