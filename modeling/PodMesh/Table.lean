import PodMesh.Fault
import PodMesh.Rate

/-!
# Reachability tables

A table holds, for every source and every destination, whether the one reaches the
other and the rate between them; either may be missing. Sources and destinations are
known by their keys, and no key repeats.
-/

namespace PodMesh

/-- A table over distinct sources and distinct destinations, its cells row by row. -/
structure Table where
  sources : List String
  targets : List String
  values : Vector (Option Bool) (sources.length * targets.length)
  rates : Vector (Option Rate) (sources.length * targets.length)
  sources_nodup : sources.Nodup
  targets_nodup : targets.Nodup

namespace Table

/-- The number of cells. -/
abbrev size (t : Table) : Nat := t.sources.length * t.targets.length

/-- A row and a column lead to a cell. -/
theorem cell_lt {n m i j : Nat} (hi : i < n) (hj : j < m) : i * m + j < n * m :=
  calc i * m + j < i * m + m := Nat.add_lt_add_left hj _
    _ = (i + 1) * m := (Nat.succ_mul i m).symm
    _ ≤ n * m := Nat.mul_le_mul_right m hi

/-- A table whose values are all `default` and that holds no rate. A repeated key is refused, one
among the sources first. -/
def make (sources targets : List String) (default : Option Bool) : Except Fault Table :=
  match hs : firstRepeat? sources with
  | some key => .error (.duplicate key)
  | none =>
    match ht : firstRepeat? targets with
    | some key => .error (.duplicate key)
    | none =>
      .ok { sources, targets
            values := Vector.replicate _ default
            rates := Vector.replicate _ none
            sources_nodup := firstRepeat?_eq_none.1 hs
            targets_nodup := firstRepeat?_eq_none.1 ht }

/-- A table from each of the keys to each of them. -/
def square (keys : List String) (default : Option Bool) : Except Fault Table :=
  make keys keys default

/-- Where a source and a destination meet. -/
def cell (t : Table) (source target : String) : Except Fault (Fin t.size) :=
  if hs : source ∈ t.sources then
    if ht : target ∈ t.targets then
      .ok ⟨t.sources.idxOf source * t.targets.length + t.targets.idxOf target,
        cell_lt (List.idxOf_lt_length_of_mem hs) (List.idxOf_lt_length_of_mem ht)⟩
    else .error (.unknownTarget target)
  else .error (.unknownSource source)

/-- Sets one value. -/
def set (t : Table) (source target : String) (value : Bool) : Except Fault Table := do
  let i ← t.cell source target
  return { t with values := t.values.set i (some value) }

/-- Sets one rate. -/
def setRate (t : Table) (source target : String) (rate : Rate) : Except Fault Table := do
  let i ← t.cell source target
  return { t with rates := t.rates.set i (some rate) }

/-- The value of a cell, which may be missing. -/
def value (t : Table) (source target : String) : Except Fault (Option Bool) := do
  let i ← t.cell source target
  return t.values[i]

/-- The value of a cell that must have one. -/
def get (t : Table) (source target : String) : Except Fault Bool := do
  match ← t.value source target with
  | some value => return value
  | none => throw (.missing source target)

/-- The rate of a cell, which may be missing. -/
def rate (t : Table) (source target : String) : Except Fault (Option Rate) := do
  let i ← t.cell source target
  return t.rates[i]

/-- Has every cell a value? -/
def isComplete (t : Table) : Bool := t.values.toList.all Option.isSome

/-- The value at a row and a column. -/
def at? (t : Table) (row column : Nat) : Option Bool :=
  (t.values[row * t.targets.length + column]?).join

/-- The rate at a row and a column. -/
def rateAt? (t : Table) (row column : Nat) : Option Rate :=
  (t.rates[row * t.targets.length + column]?).join

/-- Every source, destination and value, row by row. -/
def cells (t : Table) : List (String × String × Option Bool) :=
  t.sources.zipIdx.flatMap fun (source, i) =>
    t.targets.zipIdx.map fun (target, j) => (source, target, t.at? i j)

/-! ## Comparison -/

/-- The first position at which two lists of keys differ, with both keys. -/
def firstDifference? : List String → List String → Option (Nat × String × String)
  | a :: as, b :: bs =>
    if a = b then (firstDifference? as bs).map fun (i, x, y) => (i + 1, x, y) else some (0, a, b)
  | _, _ => none

/-- Two values compared: a value that is missing on this side stays missing, one that is missing
only on the other side differs. -/
def compareValue (own other : Option Bool) : Option Bool :=
  own.map fun value => some value = other

/-- Lists of the same length without a difference are the same. -/
theorem eq_of_firstDifference?_eq_none {as bs : List String} (hl : as.length = bs.length)
    (h : firstDifference? as bs = none) : as = bs := by
  induction as generalizing bs with
  | nil => cases bs with
    | nil => rfl
    | cons => simp at hl
  | cons a as ih => cases bs with
    | nil => simp at hl
    | cons b bs =>
      by_cases hab : a = b
      · subst hab
        simp only [firstDifference?, if_true, Option.map_eq_none_iff] at h
        rw [ih (by simpa using hl) h]
      · simp [firstDifference?, hab] at h

/-- The table that says where two tables over the same keys have the same value. It holds no
rates. -/
def compare (own other : Table) : Except Fault Table :=
  if hl : own.sources.length = other.sources.length ∧ own.targets.length = other.targets.length then
    match hs : firstDifference? own.sources other.sources with
    | some (i, a, b) => .error (.shape (.sources i b a))
    | none =>
      match ht : firstDifference? own.targets other.targets with
      | some (i, a, b) => .error (.shape (.targets i b a))
      | none =>
        .ok { own with
          values := Vector.ofFn fun i => compareValue own.values[i]
            (other.values.get ⟨i.val, by
              rw [← eq_of_firstDifference?_eq_none hl.1 hs,
                ← eq_of_firstDifference?_eq_none hl.2 ht]
              exact i.isLt⟩)
          rates := Vector.replicate _ none }
  else .error (.shape (.size own.sources.length own.targets.length
    other.sources.length other.targets.length))

end Table

end PodMesh
