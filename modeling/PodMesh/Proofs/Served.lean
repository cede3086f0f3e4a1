import Mathlib.Data.List.Nodup
import Mathlib.Data.List.ProdSigma
import PodMesh.Readiness

/-!
# What a cluster serves

Ports and protocols are listed without repetitions, and so are the servers, which pair every
port with every protocol. Whether some pod serves a port over a protocol is asked nowhere: a
server is listed as soon as one container has its port and one, perhaps another, its protocol
(`mem_servers`).
-/

namespace PodMesh.Cluster

/-! ## Distinct elements -/

section Distinct

variable {α : Type} [DecidableEq α] {x : α} {seen l : List α}

theorem distinct.mem_go : x ∈ distinct.go seen l ↔ x ∈ l ∧ x ∉ seen := by
  induction l generalizing seen with
  | nil => simp [go]
  | cons y ys ih =>
    by_cases hy : y ∈ seen
    · rw [go, if_pos hy, ih, List.mem_cons]
      refine and_congr_left fun hx => ⟨.inr, fun h => h.resolve_left ?_⟩
      rintro rfl
      exact hx hy
    · rw [go, if_neg hy, List.mem_cons, ih, List.mem_cons, List.mem_cons, not_or]
      constructor
      · rintro (rfl | ⟨hmem, _, hseen⟩)
        · exact ⟨.inl rfl, hy⟩
        · exact ⟨.inr hmem, hseen⟩
      · rintro ⟨rfl | hmem, hseen⟩
        · exact .inl rfl
        · by_cases hxy : x = y
          · exact .inl hxy
          · exact .inr ⟨hmem, hxy, hseen⟩

theorem distinct.nodup_go : (distinct.go seen l).Nodup := by
  induction l generalizing seen with
  | nil => exact .nil
  | cons y ys ih =>
    by_cases hy : y ∈ seen
    · rw [go, if_pos hy]
      exact ih
    · rw [go, if_neg hy, List.nodup_cons]
      exact ⟨fun h => (mem_go.mp h).2 List.mem_cons_self, ih⟩

@[simp] theorem mem_distinct : x ∈ distinct l ↔ x ∈ l := by
  simp [distinct, distinct.mem_go]

theorem nodup_distinct (l : List α) : (distinct l).Nodup := distinct.nodup_go

end Distinct

/-! ## Ports, protocols and servers -/

variable {c : Cluster} {port : UInt16} {protocol : Protocol} {server : Server}

theorem mem_ports : port ∈ c.ports ↔
    port ≠ 0 ∧ ∃ container ∈ c.containers, container.port = port := by
  simp [ports, and_comm]

theorem mem_protocols : protocol ∈ c.protocols ↔
    ∃ container ∈ c.containers, container.protocol = protocol := by
  simp [protocols]

theorem servers_eq_map (c : Cluster) :
    c.servers = (c.ports ×ˢ c.protocols).map fun (port, protocol) => ⟨port, protocol⟩ := by
  simp [servers, SProd.sprod, List.product, List.map_flatMap, Function.comp_def]

theorem servers_nodup (c : Cluster) : c.servers.Nodup := by
  rw [servers_eq_map]
  refine ((nodup_distinct _).product (nodup_distinct _)).map ?_
  rintro ⟨port, protocol⟩ ⟨port', protocol'⟩ h
  exact Prod.ext (congrArg Server.port h) (congrArg Server.protocol h)

/-- **Every port that is served is listed with every protocol that is.** -/
theorem mem_servers : server ∈ c.servers ↔ server.port ≠ 0 ∧
    (∃ container ∈ c.containers, container.port = server.port) ∧
    ∃ container ∈ c.containers, container.protocol = server.protocol := by
  have hpair : server ∈ c.servers ↔ (server.port, server.protocol) ∈ c.ports ×ˢ c.protocols := by
    rw [servers_eq_map, List.mem_map]
    constructor
    · rintro ⟨_, h, rfl⟩
      exact h
    · exact fun h => ⟨_, h, rfl⟩
  rw [hpair, List.mem_product, mem_ports, mem_protocols, and_assoc]

/-- Does some container serve a port over a protocol? -/
def Serves (c : Cluster) (server : Server) : Prop :=
  ∃ container ∈ c.containers, container.port = server.port ∧ container.protocol = server.protocol

instance (c : Cluster) (server : Server) : Decidable (c.Serves server) :=
  inferInstanceAs (Decidable (∃ container ∈ c.containers, _))

/-- What is served is listed, if it is a port at all. -/
theorem mem_servers_of_serves (hport : server.port ≠ 0) (h : c.Serves server) :
    server ∈ c.servers := by
  obtain ⟨container, hmem, hp, hproto⟩ := h
  exact mem_servers.mpr ⟨hport, ⟨container, hmem, hp⟩, ⟨container, hmem, hproto⟩⟩

/-- Putting a cluster together moves every pod into the namespace that lists it. -/
theorem ofNamespaces_eq_ok {namespaces : List Namespace} {domain : String}
    (h : ofNamespaces namespaces domain = .ok c) :
    c = ⟨namespaces.map Namespace.adopt, domain⟩ := by
  unfold ofNamespaces at h
  dsimp only at h
  split at h
  · exact nomatch h
  · exact (Except.ok.inj h).symm

section Build

variable {namespaces pods : List String} {ports : List UInt16} {protocols : List Protocol}
  {domain : String}

/-- Each pod of a cluster that was built has a container for every port and every protocol. -/
theorem containers_of_build (h : build namespaces pods ports protocols domain = .ok c)
    {pod : Pod} (hpod : pod ∈ c.pods) : pod.containers =
      ports.flatMap fun port => protocols.map fun protocol => { port, protocol } := by
  rw [ofNamespaces_eq_ok h] at hpod
  obtain ⟨adopted, hadopted, hpod⟩ := List.mem_flatMap.mp hpod
  obtain ⟨listed, hlisted, rfl⟩ := List.mem_map.mp hadopted
  obtain ⟨ns, _, rfl⟩ := List.mem_map.mp hlisted
  obtain ⟨own, hown, rfl⟩ := List.mem_map.mp hpod
  obtain ⟨name, _, rfl⟩ := List.mem_map.mp hown
  rfl

/-- **In a cluster that was built, what is listed is what is served.** -/
theorem mem_servers_of_build (h : build namespaces pods ports protocols domain = .ok c) :
    server ∈ c.servers ↔ server.port ≠ 0 ∧ c.Serves server := by
  refine ⟨fun hserver => ?_, fun ⟨hport, hserves⟩ => mem_servers_of_serves hport hserves⟩
  obtain ⟨hne, ⟨a, ha, hport⟩, b, hb, hprotocol⟩ := mem_servers.mp hserver
  obtain ⟨pod, hpod, ha⟩ := List.mem_flatMap.mp ha
  obtain ⟨pod', hpod', hb⟩ := List.mem_flatMap.mp hb
  rw [containers_of_build h hpod] at ha
  rw [containers_of_build h hpod'] at hb
  have hp : server.port ∈ ports := by
    simp only [List.mem_flatMap, List.mem_map] at ha
    obtain ⟨port, hmem, _, _, rfl⟩ := ha
    exact hport ▸ hmem
  have hproto : server.protocol ∈ protocols := by
    simp only [List.mem_flatMap, List.mem_map] at hb
    obtain ⟨_, _, protocol, hmem, rfl⟩ := hb
    exact hprotocol ▸ hmem
  refine ⟨hne, { port := server.port, protocol := server.protocol }, ?_, rfl, rfl⟩
  refine List.mem_flatMap.mpr ⟨pod, hpod, ?_⟩
  rw [containers_of_build h hpod]
  exact List.mem_flatMap.mpr ⟨server.port, hp, List.mem_map_of_mem hproto⟩

end Build

/-- A cluster with one pod, which serves one port over TCP and another over UDP. -/
def twoPorts : Cluster :=
  { namespaces := [{
      name := "n"
      pods := [{
        ns := "n", name := "a", podIp := some (.v4 #v[10, 0, 0, 1])
        containers := [{ port := 80, protocol := .tcp }, { port := 53, protocol := .udp }] }] }]
    domain := "cluster.local" }

example : twoPorts.servers = [⟨80, .tcp⟩, ⟨80, .udp⟩, ⟨53, .tcp⟩, ⟨53, .udp⟩] := by decide

end PodMesh.Cluster
