import PodMesh.AddressKind
import PodMesh.Proofs.Text.Separated

/-!
# Pods known by the addresses of their services

A service name does not say which of its dashes parts the namespace from the name, and pods that
split it at different dashes share it (`serviceName_eq_iff`). The address of a service repeats the
namespace behind a dot, and all that it leaves open is which dot that is
(`qualifiedAddress_eq_iff`): once the namespace is known, the service name tells the name, with all
the dashes and dots in it. A namespace without dots stands behind the last dot in front of `.svc.`
and the domain, so such an address belongs to one pod only (`address_identifies_pod`).
-/

namespace PodMesh.Pod

variable {p q : Pod} {domain : String}

/-! ## Service names -/

/-- **Pods share a service name if their identities are the same, or split it at two dashes.** -/
theorem serviceName_eq_iff : p.serviceName = q.serviceName ↔ (p.ns = q.ns ∧ p.name = q.name) ∨
    Text.SplitsBefore "-" p.ns p.name q.ns q.name ∨
      Text.SplitsBefore "-" q.ns q.name p.ns p.name := by
  have hparts : ∀ pod : Pod, pod.serviceName = "s-" ++ (pod.ns ++ "-" ++ pod.name) := by
    intro pod
    simp only [serviceName, String.append_assoc]
  rw [hparts, hparts, String.append_right_inj, Text.append_mark_eq_iff rfl]

/-- In one namespace a service name tells the name. -/
theorem serviceName_inj_of_ns (h : p.ns = q.ns) :
    p.serviceName = q.serviceName ↔ p.name = q.name := by
  rw [serviceName, serviceName, h, String.append_right_inj]

/-! ## Addresses -/

/-- **Services share an address if their pods are the same, or split it at two dots.** -/
theorem qualifiedAddress_eq_iff : p.qualifiedAddress domain = q.qualifiedAddress domain ↔
    (p.ns = q.ns ∧ p.name = q.name) ∨
      Text.SplitsBefore "." p.serviceName p.ns q.serviceName q.ns ∨
        Text.SplitsBefore "." q.serviceName q.ns p.serviceName p.ns := by
  have hparts : ∀ pod : Pod, pod.qualifiedAddress domain =
      pod.serviceName ++ "." ++ pod.ns ++ (".svc." ++ domain) := by
    intro pod
    simp only [qualifiedAddress, String.append_assoc]
  have hidentity : p.serviceName = q.serviceName ∧ p.ns = q.ns ↔ p.ns = q.ns ∧ p.name = q.name := by
    rw [and_comm]
    exact and_congr_right serviceName_inj_of_ns
  rw [hparts, hparts, String.append_left_inj, Text.append_mark_eq_iff rfl, hidentity]

/-- Two pods with one address, one of them in a namespace with a dot. -/
example : qualifiedAddress { ns := "b", name := "x.b-a.b-x" } "d" =
    qualifiedAddress { ns := "b-x.b", name := "a" } "d" := by decide

/-- **Where namespaces have no dots, an address tells the namespace and the name.** -/
theorem qualifiedAddress_inj (hp : '.' ∉ p.ns.toList) (hq : '.' ∉ q.ns.toList) :
    p.qualifiedAddress domain = q.qualifiedAddress domain ↔ p.ns = q.ns ∧ p.name = q.name := by
  rw [qualifiedAddress_eq_iff]
  refine or_iff_left ?_
  rintro (h | h)
  · exact hp (h.mem_rest rfl)
  · exact hq (h.mem_rest rfl)

/-- A pod that is given no service name is addressed by the one made of its identity. -/
theorem resolve_externalName {protocol : Protocol} (h : p.service = none) :
    AddressKind.externalName.resolve p protocol domain = some (p.qualifiedAddress domain) := by
  rw [AddressKind.resolve, h]
  rfl

/--
**The address of a service identifies the pod.**

Two pods that are given no service names, in namespaces without dots, are addressed by one external
name just if they have the same namespace and the same name, whatever dashes and dots are in them.
The service name alone does not tell that much: it is also shared by pods that split it at different
dashes, and there are such pods.
-/
theorem address_identifies_pod (domain : String) (protocol protocol' : Protocol) {p q : Pod}
    (hp : p.service = none) (hq : q.service = none)
    (hpns : '.' ∉ p.ns.toList) (hqns : '.' ∉ q.ns.toList) :
    ((∃ address, AddressKind.externalName.resolve p protocol domain = some address ∧
        AddressKind.externalName.resolve q protocol' domain = some address) ↔
      p.ns = q.ns ∧ p.name = q.name) ∧
    (p.serviceName = q.serviceName ↔ (p.ns = q.ns ∧ p.name = q.name) ∨
      Text.SplitsBefore "-" p.ns p.name q.ns q.name ∨
        Text.SplitsBefore "-" q.ns q.name p.ns p.name) ∧
    ∃ a b : Pod, (a.service = none ∧ '.' ∉ a.ns.toList) ∧ (b.service = none ∧ '.' ∉ b.ns.toList) ∧
      a.serviceName = b.serviceName ∧ a.id ≠ b.id := by
  refine ⟨?_, serviceName_eq_iff, { ns := "x", name := "a-b" }, { ns := "x-a", name := "b" },
    by decide⟩
  rw [resolve_externalName hp, resolve_externalName hq, ← qualifiedAddress_inj hpns hqns]
  constructor
  · rintro ⟨address, h, h'⟩
    exact Option.some.inj (h.trans h'.symm)
  · intro h
    exact ⟨q.qualifiedAddress domain, congrArg some h, rfl⟩

/-- Two pods share a service name with many dashes and a dot, and each has an address of its own. -/
theorem address_identifies_pod_of_shared_name :
    let p : Pod := { ns := "x", name := "a-b.x-a" }
    let q : Pod := { ns := "x-a", name := "b.x-a" }
    p.service = none ∧ q.service = none ∧ '.' ∉ p.ns.toList ∧ '.' ∉ q.ns.toList ∧
      p.serviceName = q.serviceName ∧
      ¬ ∃ address, AddressKind.externalName.resolve p .tcp "svc.d" = some address ∧
        AddressKind.externalName.resolve q .udp "svc.d" = some address := by
  intro p q
  have hpns : '.' ∉ p.ns.toList := by decide
  have hqns : '.' ∉ q.ns.toList := by decide
  have hdashes : Text.SplitsBefore "-" p.ns p.name q.ns q.name := ⟨"a", rfl, rfl⟩
  obtain ⟨haddress, hname, _⟩ := address_identifies_pod "svc.d" .tcp .udp
    (p := p) (q := q) rfl rfl hpns hqns
  refine ⟨rfl, rfl, hpns, hqns, hname.mpr (.inr (.inl hdashes)), ?_⟩
  rw [haddress]
  decide

end PodMesh.Pod
