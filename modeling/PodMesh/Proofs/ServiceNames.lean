import Mathlib.Data.List.Nodup
import PodMesh.AddressKind
import PodMesh.Proofs.Numerals
import PodMesh.Proofs.Text.Separated

/-!
# Service names that never repeat

Different pods can have one service name, and a service name can itself end in a dash and digits.
So nothing but the number that a source puts behind it tells the names apart that it issues. The
number stands behind the last dash, because digits have none, and so it can be read off whatever
stands before it (`number_inj`). As long as the counter does not start over, every name has a number
of its own (`names_never_repeat`).
-/

namespace PodMesh.ServiceNames

variable {names : ServiceNames} {pod pod' : Pod} {pods : List Pod} {n m : Nat}

/-- The name for a pod with a number. -/
def numbered (pod : Pod) (n : Nat) : String := pod.serviceName ++ "-" ++ decimal n

/-- The names that a source gives when it is asked for one pod after another. -/
def issue (names : ServiceNames) : List Pod → List String
  | [] => []
  | pod :: pods => (names.next pod).1 :: (names.next pod).2.issue pods

/-! ## Numbers -/

theorem toList_numbered (pod : Pod) (n : Nat) :
    (numbered pod n).toList = pod.serviceName.toList ++ '-' :: (decimal n).toList := by
  simp [numbered]

/-- **A numbered name tells its number, whatever the pod is called.** -/
theorem number_inj (h : numbered pod n = numbered pod' m) : n = m := by
  have hdash : ∀ n, '-' ∉ (decimal n).toList := fun n => not_mem_decimal (by decide)
  rw [← String.toList_inj, toList_numbered, toList_numbered, Text.last_inj (hdash n) (hdash m),
    String.toList_inj, String.toList_inj, decimal_inj] at h
  exact h.2

/-! ## The counter -/

theorem toNat_issued_add_one (h : names.issued.toNat + 1 < UInt32.size) :
    (names.issued + 1).toNat = names.issued.toNat + 1 := by
  rw [UInt32.toNat_add]
  exact Nat.mod_eq_of_lt h

/-- **Each name has the next number**, and the counter is at that number afterwards. -/
theorem next_eq (pod : Pod) (h : names.issued.toNat + 1 < UInt32.size) :
    (names.next pod).1 = numbered pod (names.issued.toNat + 1) ∧
      (names.next pod).2.issued.toNat = names.issued.toNat + 1 := by
  have hcount := toNat_issued_add_one h
  exact ⟨congrArg (numbered pod) hcount, hcount⟩

/-- **Names are numbered one after another, from where the counter stands.** -/
theorem issue_eq (h : names.issued.toNat + pods.length < UInt32.size) :
    names.issue pods = (pods.zipIdx (names.issued.toNat + 1)).map fun (pod, n) =>
      numbered pod n := by
  induction pods generalizing names with
  | nil => rfl
  | cons pod pods ih =>
    rw [List.length_cons] at h
    -- the counter is up by one for the rest, which so has its numbers from the next one on
    have hone : names.issued.toNat + 1 < UInt32.size := by omega
    obtain ⟨hname, hcount⟩ := next_eq pod hone
    have hrest : (names.next pod).2.issued.toNat + pods.length < UInt32.size := by omega
    rw [issue, hname, ih hrest, hcount, List.zipIdx_cons, List.map_cons]

/-- Names with different numbers are different. -/
theorem nodup_map_numbered (pods : List Pod) (first : Nat) :
    ((pods.zipIdx first).map fun (pod, n) => numbered pod n).Nodup := by
  have hnumbers : ((pods.zipIdx first).map Prod.snd).Nodup := by
    rw [List.zipIdx_map_snd]
    exact List.nodup_range'
  rw [List.Nodup, List.pairwise_map] at hnumbers ⊢
  exact hnumbers.imp fun hne heq => hne (number_inj heq)

/--
**The names that a source issues never repeat.**

As long as the counter does not start over, a new source gives every pod that it is asked for a name
that it gave to none before, in whatever order pods come and however often. The name is the service
name of the pod and, behind a dash, how many names were issued with it.
-/
theorem names_never_repeat {pods : List Pod} (h : pods.length < UInt32.size) :
    (issue {} pods).length = pods.length ∧ (issue {} pods).Nodup ∧
      ∀ n pod, pods[n]? = some pod →
        (issue {} pods)[n]? = some (pod.serviceName ++ "-" ++ decimal (n + 1)) := by
  have hissue : issue {} pods = (pods.zipIdx 1).map fun (pod, n) => numbered pod n :=
    issue_eq ((Nat.zero_add _).trans_lt h)
  rw [hissue]
  refine ⟨by rw [List.length_map, List.length_zipIdx], nodup_map_numbered pods 1, ?_⟩
  intro n pod hpod
  rw [List.getElem?_map, List.getElem?_zipIdx, hpod, Nat.add_comm n 1]
  rfl

/-- Two pods have one service name, which also is that of a third one with a number behind it. -/
theorem names_never_repeat_of_ambiguous :
    let pods : List Pod := [{ ns := "x", name := "a-1" }, { ns := "x-a", name := "1" },
      { ns := "x", name := "a" }, { ns := "x", name := "a-1" }]
    issue {} pods = ["s-x-a-1-1", "s-x-a-1-2", "s-x-a-3", "s-x-a-1-4"] ∧ (issue {} pods).Nodup := by
  intro pods
  have hfew : pods.length < UInt32.size := by decide
  obtain ⟨_, hnodup, _⟩ := names_never_repeat hfew
  exact ⟨by decide, hnodup⟩

end PodMesh.ServiceNames
