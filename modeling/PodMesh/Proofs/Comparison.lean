import Mathlib.Data.List.Basic
import Mathlib.Data.List.ProdSigma
import PodMesh.Proofs.Cells

/-!
# Tables compared

What a table says of two of its keys is its `entry`. Seen that way a table is a map: its cells
are its pairs of keys, row by row, each with its entry (`cells_eq`), and it is complete when
no entry is missing (`isComplete_iff_entry`). Tables over the same keys can always be
compared, and the comparison is made entry by entry (`exists_compare`).
-/

namespace PodMesh.Table

variable {t own other : Table} {p q : String}

/-- What a table says of two keys. -/
def entry (t : Table) (p q : String) : Option Bool := (t.value p q).toOption.join

/-! ## Cells and entries -/

theorem entry_of_cell {i : Fin t.size} (h : t.cell p q = .ok i) : t.entry p q = t.values.get i := by
  rw [entry, value_eq_map, h]
  rfl

/-- A cell is found by the keys alone, whatever the table holds. -/
theorem entry_with {i : Fin t.size} (h : t.cell p q = .ok i)
    (values : Vector (Option Bool) t.size) (rates : Vector (Option Rate) t.size) :
    entry { t with values, rates } p q = values.get i :=
  entry_of_cell (t := { t with values, rates }) h

theorem entry_of_value {v : Option Bool} (h : t.value p q = .ok v) : t.entry p q = v := by
  rw [entry, h]
  rfl

/-- What a table says of two keys of its own is their entry. -/
theorem value_eq_entry (hp : p ∈ t.sources) (hq : q ∈ t.targets) :
    t.value p q = .ok (t.entry p q) := by
  obtain ⟨i, hi⟩ := exists_cell hp hq
  rw [entry_of_cell hi, value_eq_map, hi]
  rfl

/-- A value is there to get when the entry holds it. -/
theorem get_eq_ok_iff {t : Table} {p q : String} {v : Bool} :
    t.get p q = .ok v ↔ t.entry p q = some v := by
  unfold get entry
  cases t.value p q with
  | error fault => simp [bind, Except.bind, Except.toOption]
  | ok entry =>
    cases entry with
    | none => simp [bind, Except.bind, Except.toOption, throw, throwThe, MonadExceptOf.throw]
    | some v' => simp [bind, Except.bind, Except.toOption, pure, Except.pure]

/-- The cell at the places of two keys holds their entry. -/
theorem at?_idxOf (hp : p ∈ t.sources) (hq : q ∈ t.targets) :
    t.at? (t.sources.idxOf p) (t.targets.idxOf q) = t.entry p q := by
  obtain ⟨i, hi⟩ := exists_cell hp hq
  obtain ⟨_, _, hval⟩ := cell_eq_ok hi
  rw [at?, ← hval, entry_of_cell hi, Vector.getElem?_eq_getElem i.isLt]
  rfl

theorem zipIdx_eq_map_idxOf {keys : List String} (h : keys.Nodup) :
    keys.zipIdx = keys.map fun key => (key, keys.idxOf key) := by
  refine List.ext_getElem (by simp) fun i hi _ => ?_
  simp [h.idxOf_getElem]

/-- **The cells of a table are its pairs of keys, row by row, each with its entry.** -/
theorem cells_eq (t : Table) :
    t.cells = (t.sources ×ˢ t.targets).map fun (p, q) => (p, q, t.entry p q) := by
  rw [cells, zipIdx_eq_map_idxOf t.sources_nodup, zipIdx_eq_map_idxOf t.targets_nodup]
  simp only [SProd.sprod, List.product, List.flatMap_map, List.map_flatMap, List.map_map]
  refine List.flatMap_congr fun p hp => List.map_congr_left fun q hq => ?_
  simp only [Function.comp_apply, at?_idxOf hp hq]

/-- **A table is complete when no pair of its keys goes without a value.** -/
theorem isComplete_iff_entry : t.isComplete = true ↔
    ∀ p ∈ t.sources, ∀ q ∈ t.targets, (t.entry p q).isSome = true := by
  rw [isComplete_iff]
  constructor
  · intro h p hp q hq
    obtain ⟨i, hi⟩ := exists_cell hp hq
    rw [entry_of_cell hi]
    exact h _ (Vector.getElem_mem _)
  · intro h v hv
    obtain ⟨i, hi, rfl⟩ := Vector.getElem_of_mem hv
    obtain ⟨p, hp, q, hq, hcell⟩ := exists_keys t ⟨i, hi⟩
    have hsome := h p hp q hq
    rw [entry_of_cell hcell] at hsome
    exact hsome

/-! ## Comparison -/

theorem firstDifference?_self : ∀ keys : List String, firstDifference? keys keys = none
  | [] => rfl
  | key :: keys => by
      rw [firstDifference?, if_pos rfl, firstDifference?_self keys]
      rfl

/-- **Tables over the same keys can be compared, entry by entry.** -/
theorem exists_compare (h : own.SameKeys other) : ∃ c, own.compare other = .ok c ∧
    c.SameKeys own ∧ ∀ p ∈ own.sources, ∀ q ∈ own.targets,
      c.entry p q = compareValue (own.entry p q) (other.entry p q) := by
  obtain ⟨ss, ts, vs, rs, hss, hts⟩ := own
  obtain ⟨ss', ts', vs', rs', hss', hts'⟩ := other
  obtain ⟨hs, ht⟩ := h
  dsimp only at hs ht
  subst hs
  subst ht
  unfold compare
  rw [dif_pos ⟨rfl, rfl⟩]
  split
  · rename_i hd
    rw [firstDifference?_self] at hd
    exact absurd hd (by simp)
  · split
    · rename_i hd
      rw [firstDifference?_self] at hd
      exact absurd hd (by simp)
    · refine ⟨_, rfl, ⟨rfl, rfl⟩, fun p hp q hq => ?_⟩
      obtain ⟨i, hi⟩ := exists_cell (t := ⟨ss, ts, vs, rs, hss, hts⟩) hp hq
      have hother := entry_with hi vs' rs'
      rw [entry_of_cell hi, hother]
      refine (entry_with hi _ _).trans ?_
      exact Vector.getElem_ofFn i.isLt

/-- A comparison has a value where this side has one, whatever the other side holds. -/
theorem isComplete_compare {c : Table} (h : own.compare other = .ok c) :
    c.isComplete = own.isComplete := by
  unfold compare at h
  split at h
  · split at h
    · cases h
    · split at h
      · cases h
      · injection h with h
        subst h
        rw [Bool.eq_iff_iff, isComplete_iff, isComplete_iff]
        constructor
        · intro hsome v hv
          obtain ⟨i, hi, rfl⟩ := Vector.getElem_of_mem hv
          have hcell := hsome _ (Vector.getElem_mem (i := i) hi)
          rw [Vector.getElem_ofFn, compareValue, Option.isSome_map] at hcell
          exact hcell
        · intro hsome v hv
          obtain ⟨i, hi, rfl⟩ := Vector.getElem_of_mem hv
          rw [Vector.getElem_ofFn, compareValue, Option.isSome_map]
          exact hsome _ (Vector.getElem_mem hi)
  · cases h

end PodMesh.Table
