import PodMesh.Table

/-!
# Cells of a table

A table keeps its cells in one row after another, and finds a cell by the places of its two
keys. No key repeats, so a cell belongs to one pair of keys only (`cell_inj`). That is why
a write changes the one cell it names and no other (`value_set`, `rate_setRate`), and why a
table is known by its keys and by what its cells say (`eq_of_cells`).
-/

namespace PodMesh

/-- A sequence of two operations succeeds when both do. -/
theorem bind_eq_ok {ε α β : Type} {x : Except ε α} {f : α → Except ε β} {b : β} :
    (x >>= f) = .ok b ↔ ∃ a, x = .ok a ∧ f a = .ok b := by
  cases x with
  | error fault => simp [bind, Except.bind]
  | ok a => simp [bind, Except.bind]

/-- It fails when the first does, or else the second. -/
theorem bind_eq_error {ε α β : Type} {x : Except ε α} {f : α → Except ε β} {fault : ε} :
    (x >>= f) = .error fault ↔ x = .error fault ∨ ∃ a, x = .ok a ∧ f a = .error fault := by
  cases x with
  | error fault => simp [bind, Except.bind]
  | ok a => simp [bind, Except.bind]

namespace Table

variable {t t' : Table} {source target p q : String}

/-! ## New tables -/

section Make

variable {sources targets : List String} {default : Option Bool}

/-- **A new table is refused for the first key that repeats, among the sources or else among the
targets.** -/
theorem make_eq_error_iff {fault : Fault} : make sources targets default = .error fault ↔
    ∃ key, fault = .duplicate key ∧
      (FirstRepeat sources key ∨ sources.Nodup ∧ FirstRepeat targets key) := by
  simp only [← firstRepeat?_eq_some, ← firstRepeat?_eq_none]
  unfold make
  split
  · rename_i key hs
    simp [hs, eq_comm]
  · rename_i hs
    split
    · rename_i key ht
      simp [hs, ht, eq_comm]
    · rename_i ht
      simp [hs, ht]

/-- A new table is over the keys it was made from, with the default in every cell and no rates. -/
theorem make_eq_ok (h : make sources targets default = .ok t) :
    t.sources = sources ∧ t.targets = targets ∧ (∀ v ∈ t.values, v = default) ∧
      ∀ r ∈ t.rates, r = none := by
  unfold make at h
  split at h
  · cases h
  · split at h
    · cases h
    · injection h with h
      subst h
      exact ⟨rfl, rfl, fun v hv => (Vector.mem_replicate.mp hv).2,
        fun r hr => (Vector.mem_replicate.mp hr).2⟩

/-- A table can be made if no key repeats. -/
theorem exists_make (hs : sources.Nodup) (ht : targets.Nodup) (default : Option Bool) :
    ∃ t, make sources targets default = .ok t := by
  cases h : make sources targets default with
  | ok t => exact ⟨t, rfl⟩
  | error fault =>
    rw [make_eq_error_iff] at h
    simp only [← firstRepeat?_eq_some, firstRepeat?_eq_none.mpr hs, firstRepeat?_eq_none.mpr ht,
      reduceCtorEq, and_false, or_self, exists_false] at h

end Make

/-! ## Where a cell is -/

/-- Keys of the table have a cell. -/
theorem exists_cell (hs : source ∈ t.sources) (ht : target ∈ t.targets) :
    ∃ i, t.cell source target = .ok i := by
  unfold cell
  rw [dif_pos hs, dif_pos ht]
  exact ⟨_, rfl⟩

/-- An unknown source has no cell, whatever the target is. -/
theorem cell_of_not_mem_sources (hs : source ∉ t.sources) :
    t.cell source target = .error (.unknownSource source) := by
  rw [cell, dif_neg hs]

theorem cell_of_not_mem_targets (hs : source ∈ t.sources) (ht : target ∉ t.targets) :
    t.cell source target = .error (.unknownTarget target) := by
  rw [cell, dif_pos hs, dif_neg ht]

/-- Only keys of the table have a cell, and the cell is at their row and column. -/
theorem cell_eq_ok {i : Fin t.size} (h : t.cell source target = .ok i) :
    source ∈ t.sources ∧ target ∈ t.targets ∧
      i.val = t.sources.idxOf source * t.targets.length + t.targets.idxOf target := by
  unfold cell at h
  split at h
  · rename_i hs
    split at h
    · rename_i ht
      injection h with h
      exact ⟨hs, ht, by rw [← h]⟩
    · exact absurd h (by simp)
  · exact absurd h (by simp)

/-- Rows of one length lie apart. -/
theorem row_column_inj {m i j i' j' : Nat} (hj : j < m) (hj' : j' < m)
    (h : i * m + j = i' * m + j') : i = i' ∧ j = j' := by
  have hcol : j = j' := by
    have := congrArg (· % m) h
    simpa [Nat.mul_add_mod_of_lt, Nat.mul_comm _ m, Nat.mod_eq_of_lt hj,
      Nat.mod_eq_of_lt hj'] using this
  refine ⟨?_, hcol⟩
  subst hcol
  exact Nat.eq_of_mul_eq_mul_right (Nat.lt_of_le_of_lt (Nat.zero_le j) hj)
    (Nat.add_right_cancel h)

theorem idxOf_inj {keys : List String} (hp : p ∈ keys) (hq : q ∈ keys)
    (h : keys.idxOf p = keys.idxOf q) : p = q := by
  have hpi := List.getElem_idxOf (List.idxOf_lt_length_of_mem hp)
  have hqi := List.getElem_idxOf (List.idxOf_lt_length_of_mem hq)
  rw [← hpi, ← hqi]
  simp only [h]

/-- **No two pairs of keys share a cell.** -/
theorem cell_inj {i : Fin t.size} (h : t.cell source target = .ok i)
    (h' : t.cell p q = .ok i) : p = source ∧ q = target := by
  obtain ⟨hs, ht, hi⟩ := cell_eq_ok h
  obtain ⟨hp, hq, hi'⟩ := cell_eq_ok h'
  obtain ⟨hrow, hcol⟩ := row_column_inj (List.idxOf_lt_length_of_mem hq)
    (List.idxOf_lt_length_of_mem ht) (hi'.symm.trans hi)
  exact ⟨idxOf_inj hp hs hrow, idxOf_inj hq ht hcol⟩

/-- Every cell belongs to a pair of keys. -/
theorem exists_keys (t : Table) (i : Fin t.size) :
    ∃ p ∈ t.sources, ∃ q ∈ t.targets, t.cell p q = .ok i := by
  have hpos : 0 < t.targets.length := by
    rcases Nat.eq_zero_or_pos t.targets.length with h0 | h0
    · have := i.isLt
      simp [size, h0] at this
    · exact h0
  have hrow : i.val / t.targets.length < t.sources.length :=
    (Nat.div_lt_iff_lt_mul hpos).mpr i.isLt
  have hcol : i.val % t.targets.length < t.targets.length := Nat.mod_lt _ hpos
  refine ⟨t.sources[i.val / t.targets.length], List.getElem_mem _,
    t.targets[i.val % t.targets.length], List.getElem_mem _, ?_⟩
  obtain ⟨j, hj⟩ := exists_cell (t := t) (List.getElem_mem hrow) (List.getElem_mem hcol)
  obtain ⟨_, _, hval⟩ := cell_eq_ok hj
  rw [t.sources_nodup.idxOf_getElem, t.targets_nodup.idxOf_getElem, Nat.div_add_mod'] at hval
  rw [hj, Fin.ext hval]

/-! ## Reading -/

theorem value_eq_map (t : Table) (p q : String) :
    t.value p q = (t.cell p q).map fun j => t.values.get j := by
  rw [value]
  cases t.cell p q <;> rfl

theorem rate_eq_map (t : Table) (p q : String) :
    t.rate p q = (t.cell p q).map fun j => t.rates.get j := by
  rw [rate]
  cases t.cell p q <;> rfl

theorem isComplete_iff : t.isComplete = true ↔ ∀ v ∈ t.values, v.isSome = true := by
  simp only [isComplete, List.all_eq_true, Vector.mem_toList_iff]

/-- In a complete table every pair of keys has a value. -/
theorem exists_get (hc : t.isComplete = true) (hs : source ∈ t.sources)
    (ht : target ∈ t.targets) : ∃ v, t.get source target = .ok v := by
  obtain ⟨i, hi⟩ := exists_cell hs ht
  have hsome : (t.values[i]).isSome = true := isComplete_iff.mp hc _ (Vector.getElem_mem _)
  obtain ⟨v, hv⟩ := Option.isSome_iff_exists.mp hsome
  refine ⟨v, ?_⟩
  have hval : t.value source target = .ok (some v) := by
    rw [value_eq_map, hi, ← hv]
    rfl
  rw [get, hval]
  rfl

/-! ## Writing -/

theorem exists_set (hs : source ∈ t.sources) (ht : target ∈ t.targets) (v : Bool) :
    ∃ t', t.set source target v = .ok t' := by
  obtain ⟨i, hi⟩ := exists_cell hs ht
  exact ⟨_, by rw [set, hi]; rfl⟩

theorem exists_setRate (hs : source ∈ t.sources) (ht : target ∈ t.targets) (r : Rate) :
    ∃ t', t.setRate source target r = .ok t' := by
  obtain ⟨i, hi⟩ := exists_cell hs ht
  exact ⟨_, by rw [setRate, hi]; rfl⟩

theorem set_eq_ok {v : Bool} (h : t.set source target v = .ok t') :
    ∃ i : Fin t.size, t.cell source target = .ok i ∧
      { t with values := t.values.set i (some v) i.isLt } = t' := by
  obtain ⟨i, hi, ht⟩ := bind_eq_ok.mp h
  exact ⟨i, hi, Except.ok.inj ht⟩

theorem setRate_eq_ok {r : Rate} (h : t.setRate source target r = .ok t') :
    ∃ i : Fin t.size, t.cell source target = .ok i ∧
      { t with rates := t.rates.set i (some r) i.isLt } = t' := by
  obtain ⟨i, hi, ht⟩ := bind_eq_ok.mp h
  exact ⟨i, hi, Except.ok.inj ht⟩

/-- A write to one cell, read at another pair of keys or at the same. -/
theorem map_getElem_set {α : Type} {xs : Vector α t.size} {i : Fin t.size}
    (hi : t.cell source target = .ok i) (x : α) (p q : String) :
    (t.cell p q).map (fun j => (xs.set i x)[j]) =
      if p = source ∧ q = target then .ok x else (t.cell p q).map fun j => xs[j] := by
  split
  · rename_i hpq
    rw [hpq.1, hpq.2, hi]
    simp [Except.map]
  · rename_i hpq
    cases hj : t.cell p q with
    | error => rfl
    | ok j =>
      have hij : i ≠ j := fun he => hpq (cell_inj hi (he ▸ hj))
      have hij' : i.val ≠ j.val := fun he => hij (Fin.ext he)
      simp [Except.map, Vector.getElem_set_ne, hij']

/-- **Setting a value changes the named cell only.** -/
theorem value_set {v : Bool} (h : t.set source target v = .ok t') (p q : String) :
    t'.value p q = if p = source ∧ q = target then .ok (some v) else t.value p q := by
  obtain ⟨i, hi, rfl⟩ := set_eq_ok h
  rw [value_eq_map, value_eq_map]
  exact map_getElem_set hi (some v) p q

theorem rate_set {v : Bool} (h : t.set source target v = .ok t') (p q : String) :
    t'.rate p q = t.rate p q := by
  obtain ⟨i, _, rfl⟩ := set_eq_ok h
  rfl

/-- **Setting a rate changes the named cell only.** -/
theorem rate_setRate {r : Rate} (h : t.setRate source target r = .ok t') (p q : String) :
    t'.rate p q = if p = source ∧ q = target then .ok (some r) else t.rate p q := by
  obtain ⟨i, hi, rfl⟩ := setRate_eq_ok h
  rw [rate_eq_map, rate_eq_map]
  exact map_getElem_set hi (some r) p q

theorem value_setRate {r : Rate} (h : t.setRate source target r = .ok t') (p q : String) :
    t'.value p q = t.value p q := by
  obtain ⟨i, _, rfl⟩ := setRate_eq_ok h
  rfl

/-- Writing a value takes none away. -/
theorem isComplete_set {v : Bool} (h : t.set source target v = .ok t')
    (hc : t.isComplete = true) : t'.isComplete = true := by
  obtain ⟨i, _, rfl⟩ := set_eq_ok h
  rw [isComplete_iff] at hc ⊢
  intro w hw
  rcases @Vector.mem_or_eq_of_mem_set _ _ _ _ _ _ i.isLt hw with hw | rfl
  · exact hc w hw
  · rfl

/-- Do two tables have the same keys, in the same order? -/
def SameKeys (t t' : Table) : Prop := t.sources = t'.sources ∧ t.targets = t'.targets

theorem set_sameKeys {v : Bool} (h : t.set source target v = .ok t') : SameKeys t' t := by
  obtain ⟨i, _, rfl⟩ := set_eq_ok h
  exact ⟨rfl, rfl⟩

theorem setRate_sameKeys {r : Rate} (h : t.setRate source target r = .ok t') :
    SameKeys t' t := by
  obtain ⟨i, _, rfl⟩ := setRate_eq_ok h
  exact ⟨rfl, rfl⟩

/-! ## What a table is known by -/

/-- Vectors of cells that are read alike under all keys are the same. -/
theorem eq_of_map_getElem {α : Type} {xs ys : Vector α t.size}
    (h : ∀ p ∈ t.sources, ∀ q ∈ t.targets,
      (t.cell p q).map (fun j => xs[j]) = (t.cell p q).map fun j => ys[j]) : xs = ys := by
  refine Vector.ext fun i hi => ?_
  obtain ⟨p, hp, q, hq, hpq⟩ := exists_keys t ⟨i, hi⟩
  have := h p hp q hq
  rw [hpq] at this
  exact Except.ok.inj this

/-- **Tables with the same keys and the same cells are the same.** -/
theorem eq_of_cells (hk : SameKeys t t')
    (hv : ∀ p ∈ t.sources, ∀ q ∈ t.targets, t.value p q = t'.value p q)
    (hr : ∀ p ∈ t.sources, ∀ q ∈ t.targets, t.rate p q = t'.rate p q) : t = t' := by
  obtain ⟨ss, ts, vs, rs, hss, hts⟩ := t
  obtain ⟨ss', ts', vs', rs', hss', hts'⟩ := t'
  obtain ⟨hs, ht⟩ := hk
  dsimp only at hs ht
  subst hs
  subst ht
  simp only [value_eq_map] at hv
  simp only [rate_eq_map] at hr
  have hvs : vs = vs' := eq_of_map_getElem (t := ⟨ss, ts, vs, rs, hss, hts⟩) hv
  have hrs : rs = rs' := eq_of_map_getElem (t := ⟨ss, ts, vs, rs, hss, hts⟩) hr
  subst hvs
  subst hrs
  rfl

end Table

end PodMesh
