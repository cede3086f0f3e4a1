import PodMesh.Pod

/-!
# Faults

The reasons why an operation on clusters, tables and passes is refused, and the text
of each.
-/

namespace PodMesh

/-- How two tables, or a table and a cluster, fail to fit together. -/
inductive ShapeFault where
  /-- Rows and columns here, rows and columns there. -/
  | size (rows columns otherRows otherColumns : Nat)
  /-- The first position at which the sources differ, with the key there and the key here. -/
  | sources (index : Nat) (other own : String)
  /-- The same for the destinations. -/
  | targets (index : Nat) (other own : String)
  /-- The pods of the cluster are not the pods of the table. -/
  | pods (cluster table : Nat)
  deriving DecidableEq, Repr

def ShapeFault.message : ShapeFault → String
  | .size n m n' m' =>
    decimal n ++ "x" ++ decimal m ++ " vs " ++ decimal n' ++ "x" ++ decimal m'
  | .sources i other own =>
    "from keys at index " ++ decimal i ++ " do not match (" ++ other ++ " vs " ++ own ++ ")"
  | .targets i other own =>
    "to keys at index " ++ decimal i ++ " do not match (" ++ other ++ " vs " ++ own ++ ")"
  | .pods n m => "model pods (" ++ decimal n ++ ") differ from table pods (" ++ decimal m ++ ")"

/-- Why an operation is refused. -/
inductive Fault where
  | unknownSource (key : String)
  | unknownTarget (key : String)
  /-- The cell has no value. -/
  | missing (source target : String)
  | shape (fault : ShapeFault)
  | duplicate (key : String)
  | badPeer (text : String)
  | badIdentity (text : String)
  | badProtocol (text : String)
  | badKind (text : String)
  | badCheck (text : String)
  | noSuchPod (id : Identity)
  /-- A pass ended without all of its outcomes. -/
  | incomplete (got want : Nat)
  /-- No worker was left to take a job. -/
  | workersGone
  | notReady (tries servers : Nat)
  | emptyCommand
  deriving DecidableEq, Repr

def Fault.message : Fault → String
  | .unknownSource key => "from-key " ++ key ++ " not found"
  | .unknownTarget key => "to-key " ++ key ++ " not allowed"
  | .missing source target => "no value for " ++ source ++ " -> " ++ target
  | .shape fault => "cannot compare: " ++ fault.message
  | .duplicate key => "duplicate identity " ++ key
  | .badPeer text => "invalid peer '" ++ text ++ "'"
  | .badIdentity text => "expected ns/pod, found " ++ text
  | .badProtocol text => "invalid protocol: " ++ text
  | .badKind text => "invalid service type: " ++ text
  | .badCheck text => "invalid check: " ++ text
  | .noSuchPod id => "failed to find pod " ++ id.text
  | .incomplete got want =>
    "probe pass ended after " ++ decimal got ++ " of " ++ decimal want ++ " outcomes"
  | .workersGone => "probe workers exited"
  | .notReady tries servers =>
    "after " ++ decimal tries ++ " tries, " ++ decimal servers ++ " servers are not ready"
  | .emptyCommand => "empty kubectl command"

/-- The first element that equals an earlier one. -/
def firstRepeat? {α : Type} [DecidableEq α] : List α → Option α :=
  go []
where
  go (seen : List α) : List α → Option α
    | [] => none
    | x :: xs => if x ∈ seen then some x else go (x :: seen) xs

theorem firstRepeat?.go_eq_none {α : Type} [DecidableEq α] {seen l : List α} :
    firstRepeat?.go seen l = none ↔ l.Nodup ∧ ∀ x ∈ l, x ∉ seen := by
  induction l generalizing seen with
  | nil => simp [go]
  | cons x xs ih =>
    by_cases hx : x ∈ seen
    · simp [go, hx]
    · simp only [go, hx, if_false, ih, List.nodup_cons, List.mem_cons, not_or, forall_eq_or_imp,
        not_false_eq_true, true_and]
      constructor
      · rintro ⟨hn, h⟩
        exact ⟨⟨fun hm => (h x hm).1 rfl, hn⟩, fun y hy => (h y hy).2⟩
      · rintro ⟨⟨hm, hn⟩, h⟩
        exact ⟨hn, fun y hy => ⟨fun e => hm (e ▸ hy), h y hy⟩⟩

/-- A list has no repeated element exactly when it has no first one. -/
theorem firstRepeat?_eq_none {α : Type} [DecidableEq α] {l : List α} :
    firstRepeat? l = none ↔ l.Nodup := by
  simp [firstRepeat?, firstRepeat?.go_eq_none]

/-- An element is equal to an earlier one, and no two elements before it are equal. -/
def FirstRepeat {α : Type} (l : List α) (x : α) : Prop :=
  ∃ before after, l = before ++ x :: after ∧ before.Nodup ∧ x ∈ before

section Repeats

variable {α : Type} [DecidableEq α] {x : α} {seen before rest l : List α}

/-- New elements are passed over. -/
theorem firstRepeat?.go_append (hn : before.Nodup) (hnew : ∀ y ∈ before, y ∉ seen) :
    go seen (before ++ rest) = go (before.reverse ++ seen) rest := by
  induction before generalizing seen with
  | nil => rfl
  | cons y ys ih =>
    obtain ⟨hy, hn⟩ := List.nodup_cons.mp hn
    have hnew' : ∀ z ∈ ys, z ∉ y :: seen := by
      intro z hz hmem
      rcases List.mem_cons.mp hmem with rfl | hmem
      · exact hy hz
      · exact hnew z (List.mem_cons_of_mem y hz) hmem
    rw [List.cons_append, go, if_neg (hnew y List.mem_cons_self), ih hn hnew']
    simp

theorem firstRepeat?.go_eq_some (h : go seen l = some x) : ∃ before after,
    l = before ++ x :: after ∧ before.Nodup ∧ (∀ y ∈ before, y ∉ seen) ∧
      (x ∈ before ∨ x ∈ seen) := by
  induction l generalizing seen with
  | nil => cases h
  | cons y ys ih =>
    rw [go] at h
    by_cases hy : y ∈ seen
    · rw [if_pos hy] at h
      obtain rfl : y = x := Option.some.inj h
      exact ⟨[], ys, rfl, .nil, nofun, .inr hy⟩
    · rw [if_neg hy] at h
      obtain ⟨before, after, rfl, hn, hnew, hx⟩ := ih h
      -- the first element is new, and those behind it are not equal to it either
      refine ⟨y :: before, after, rfl, ?_, ?_, ?_⟩
      · exact List.nodup_cons.mpr ⟨fun hmem => hnew y hmem List.mem_cons_self, hn⟩
      · exact List.forall_mem_cons.mpr
          ⟨hy, fun z hz hseen => hnew z hz (List.mem_cons_of_mem y hseen)⟩
      · grind

/-- What is found is the first element that equals an earlier one. -/
theorem firstRepeat?_eq_some : firstRepeat? l = some x ↔ FirstRepeat l x := by
  constructor
  · intro h
    obtain ⟨before, after, hl, hn, _, hx⟩ := firstRepeat?.go_eq_some h
    exact ⟨before, after, hl, hn, hx.resolve_right List.not_mem_nil⟩
  · rintro ⟨before, after, rfl, hn, hx⟩
    have hseen : x ∈ before.reverse ++ [] := by simpa using hx
    rw [firstRepeat?, firstRepeat?.go_append hn fun _ _ => List.not_mem_nil, firstRepeat?.go,
      if_pos hseen]

end Repeats

end PodMesh
