import Mathlib.Data.List.Nodup
import Mathlib.Logic.Function.Basic
import PodMesh.Proofs.Differences

/-!
# Tables as maps

A table finds the place of a pair of keys by counting, and keeps values and rates in two vectors at
that place. None of this can be seen from outside. A `Chart` is two maps on the pairs of known keys,
and the chart of a table (`Table.chart`) is what the table says of each pair. Every access to a
table answers as the same access to its chart, and leaves a table whose chart is what that access
leaves (`access_chart`), so this holds of any number of accesses (`accesses_chart`).

It takes three things: that a place is inside the vectors, that no two pairs share one
(`cell_inj`), and that a new table (`chart_make`) and a comparison (`chart_compare`) begin with the
right maps.
-/

namespace PodMesh

/-- Two maps on pairs of known sources and known targets. -/
@[ext]
structure Chart where
  sources : List String
  targets : List String
  value : String × String → Option Bool
  rate : String × String → Option Rate

namespace Chart

/-- What to do with the cell of two keys. -/
inductive Action where
  | set (value : Bool)
  | setRate (rate : Rate)
  | get
  | value
  | rate

/-- A source, a target, and what to do with their cell. -/
structure Access where
  source : String
  target : String
  action : Action

/-- What an access answers, if it is not refused. -/
inductive Answer where
  | done
  | got (value : Bool)
  | value (value : Option Bool)
  | rate (rate : Option Rate)
  deriving DecidableEq

/-- The answers to some accesses, made one after another, and what they leave. -/
def inTurn {σ : Type} (access : σ → Access → Except Fault Answer × σ) :
    List Access → σ → List (Except Fault Answer) × σ
  | [], s => ([], s)
  | a :: rest, s =>
    ((access s a).1 :: (inTurn access rest (access s a).2).1,
      (inTurn access rest (access s a).2).2)

/-- A chart that says `default` of all pairs, and of none a rate. -/
def plain (sources targets : List String) (default : Option Bool) : Chart where
  sources
  targets
  value pair := if pair.1 ∈ sources ∧ pair.2 ∈ targets then default else none
  rate _ := none

/-- What is done with a known pair. -/
def act (c : Chart) (pair : String × String) : Action → Except Fault Answer × Chart
  | .set v => (.ok .done, { c with value := Function.update c.value pair (some v) })
  | .setRate r => (.ok .done, { c with rate := Function.update c.rate pair (some r) })
  | .get =>
    match c.value pair with
    | some v => (.ok (.got v), c)
    | none => (.error (.missing pair.1 pair.2), c)
  | .value => (.ok (.value (c.value pair)), c)
  | .rate => (.ok (.rate (c.rate pair)), c)

/-- An access is refused if the source is unknown, or else the target, and then nothing changes. -/
def access (c : Chart) (a : Access) : Except Fault Answer × Chart :=
  if a.source ∉ c.sources then (.error (.unknownSource a.source), c)
  else if a.target ∉ c.targets then (.error (.unknownTarget a.target), c)
  else c.act (a.source, a.target) a.action

end Chart

namespace Table

open Chart (Action Access Answer inTurn)

variable {t t' own other c : Table} {p q : String} {sources targets : List String}
  {default : Option Bool}

/-- The rate that a table has for two keys. -/
def rateEntry (t : Table) (p q : String) : Option Rate := (t.rate p q).toOption.join

/-- What a table says of each pair. -/
def chart (t : Table) : Chart where
  sources := t.sources
  targets := t.targets
  value pair := t.entry pair.1 pair.2
  rate pair := t.rateEntry pair.1 pair.2

/-- A write gives a table. One that is refused leaves the table as it was. -/
def written (t : Table) : Except Fault Table → Except Fault Answer × Table
  | .ok t' => (.ok .done, t')
  | .error fault => (.error fault, t)

/-- What is done with the cell of two keys. -/
def act (t : Table) (p q : String) : Action → Except Fault Answer × Table
  | .set v => t.written (t.set p q v)
  | .setRate r => t.written (t.setRate p q r)
  | .get => ((t.get p q).map .got, t)
  | .value => ((t.value p q).map .value, t)
  | .rate => ((t.rate p q).map .rate, t)

def access (t : Table) (a : Access) : Except Fault Answer × Table :=
  t.act a.source a.target a.action

/-! ## One access -/

/-- Where there is no cell, whatever is done is refused for that reason. -/
theorem act_of_no_cell {fault : Fault} (h : t.cell p q = .error fault) (action : Action) :
    t.act p q action = (.error fault, t) := by
  cases action with
  | set v => rw [act, Table.set, h]; rfl
  | setRate r => rw [act, Table.setRate, h]; rfl
  | get => rw [act, Table.get, Table.value, h]; rfl
  | value => rw [act, Table.value, h]; rfl
  | rate => rw [act, Table.rate, h]; rfl

theorem rate_eq_rateEntry (hp : p ∈ t.sources) (hq : q ∈ t.targets) :
    t.rate p q = .ok (t.rateEntry p q) := by
  obtain ⟨i, hi⟩ := exists_cell hp hq
  rw [rateEntry, rate_eq_map, hi]
  rfl

/-- Setting a value updates one of the maps. -/
theorem chart_set {v : Bool} (h : t.set p q v = .ok t') :
    t'.chart = { t.chart with value := Function.update t.chart.value (p, q) (some v) } := by
  obtain ⟨hsources, htargets⟩ := set_sameKeys h
  refine Chart.ext hsources htargets (funext fun pair => ?_) (funext fun pair => ?_)
  · show t'.entry pair.1 pair.2 = Function.update t.chart.value (p, q) (some v) pair
    rw [entry, value_set h, Function.update_apply]
    simp only [Prod.ext_iff]
    split
    · rfl
    · rfl
  · show t'.rateEntry pair.1 pair.2 = t.rateEntry pair.1 pair.2
    rw [rateEntry, rateEntry, rate_set h]

/-- Setting a rate updates the other. -/
theorem chart_setRate {r : Rate} (h : t.setRate p q r = .ok t') :
    t'.chart = { t.chart with rate := Function.update t.chart.rate (p, q) (some r) } := by
  obtain ⟨hsources, htargets⟩ := setRate_sameKeys h
  refine Chart.ext hsources htargets (funext fun pair => ?_) (funext fun pair => ?_)
  · show t'.entry pair.1 pair.2 = t.entry pair.1 pair.2
    rw [entry, entry, value_setRate h]
  · show t'.rateEntry pair.1 pair.2 = Function.update t.chart.rate (p, q) (some r) pair
    rw [rateEntry, rate_setRate h, Function.update_apply]
    simp only [Prod.ext_iff]
    split
    · rfl
    · rfl

/-- What is done with two known keys is the same on the table and on its chart. -/
theorem act_chart (hp : p ∈ t.sources) (hq : q ∈ t.targets) (action : Action) :
    (t.act p q action).map id chart = t.chart.act (p, q) action := by
  cases action with
  | set v =>
    obtain ⟨t', h⟩ := exists_set hp hq v
    rw [act, h, Chart.act, ← chart_set h]
    rfl
  | setRate r =>
    obtain ⟨t', h⟩ := exists_setRate hp hq r
    rw [act, h, Chart.act, ← chart_setRate h]
    rfl
  | get =>
    have hentry : t.chart.value (p, q) = t.entry p q := rfl
    rw [act, Table.get, value_eq_entry hp hq, Chart.act, hentry]
    cases t.entry p q with
    | none => rfl
    | some v => rfl
  | value =>
    rw [act, value_eq_entry hp hq]
    rfl
  | rate =>
    rw [act, rate_eq_rateEntry hp hq]
    rfl

/-- **An access to a table is the same access to its chart.** -/
theorem access_chart (t : Table) (a : Access) :
    (t.access a).map id chart = t.chart.access a := by
  rw [access, Chart.access]
  split
  · rename_i hs
    rw [act_of_no_cell (cell_of_not_mem_sources hs)]
    rfl
  · rename_i hs
    have hsource : a.source ∈ t.sources := Decidable.not_not.mp hs
    split
    · rename_i ht
      rw [act_of_no_cell (cell_of_not_mem_targets hsource ht)]
      rfl
    · rename_i ht
      exact act_chart hsource (Decidable.not_not.mp ht) a.action

/-! ## Any number of accesses -/

/-- **Accesses to a table are the same accesses to its chart.** -/
theorem accesses_chart (accesses : List Access) (t : Table) :
    (inTurn access accesses t).map id chart = inTurn Chart.access accesses t.chart := by
  induction accesses generalizing t with
  | nil => rfl
  | cons a rest ih =>
    rw [inTurn, inTurn, ← access_chart t a]
    show _ = ((t.access a).1 :: (inTurn Chart.access rest (t.access a).2.chart).1,
      (inTurn Chart.access rest (t.access a).2.chart).2)
    rw [← ih]
    rfl

/-! ## Where it begins -/

/-- **The chart of a new table is plain.** -/
theorem chart_make (h : make sources targets default = .ok t) :
    t.chart = .plain sources targets default := by
  obtain ⟨rfl, rfl, hvalues, hrates⟩ := make_eq_ok h
  refine Chart.ext rfl rfl (funext fun pair => ?_) (funext fun pair => ?_)
  · show t.entry pair.1 pair.2 = if pair.1 ∈ t.sources ∧ pair.2 ∈ t.targets then default else none
    split
    · rename_i hpair
      obtain ⟨i, hi⟩ := exists_cell hpair.1 hpair.2
      rw [entry_of_cell hi]
      exact hvalues _ (Vector.getElem_mem _)
    · rename_i hpair
      exact entry_eq_none_of_unknown hpair
  · show t.rateEntry pair.1 pair.2 = none
    rw [rateEntry, rate_eq_map]
    cases t.cell pair.1 pair.2 with
    | error fault => rfl
    | ok i => exact hrates _ (Vector.getElem_mem _)

/-- **The chart of a comparison compares the two charts, and has no rates.** -/
theorem chart_compare (h : own.compare other = .ok c) : c.chart =
    { own.chart with
      value := fun pair => compareValue (own.chart.value pair) (other.chart.value pair)
      rate := fun _ => none } := by
  obtain ⟨⟨hsources, htargets⟩, hentry⟩ := compare_eq_ok h
  refine Chart.ext hsources htargets (funext fun pair => hentry pair.1 pair.2)
    (funext fun pair => ?_)
  show c.rateEntry pair.1 pair.2 = none
  rw [rateEntry, rate_compare h]
  cases own.cell pair.1 pair.2 with
  | error fault => rfl
  | ok i => rfl

/-! ## All pairs at once -/

/-- How a table shows all of its chart at once, and where it keeps it. -/
structure Shows (t : Table) : Prop where
  /-- Every row and column lead to a place inside both vectors. -/
  inside : ∀ row < t.sources.length, ∀ column < t.targets.length,
    row * t.targets.length + column < t.values.toArray.size ∧
      row * t.targets.length + column < t.rates.toArray.size
  /-- The place of two keys is where their row and column lead. -/
  place : ∀ p ∈ t.sources, ∀ q ∈ t.targets, ∃ i : Fin t.size, t.cell p q = .ok i ∧
    i.val = t.sources.idxOf p * t.targets.length + t.targets.idxOf q
  /-- Every place is that of just one pair of keys. -/
  own : ∀ i : Fin t.size, ∃! pair : String × String, t.cell pair.1 pair.2 = .ok i
  /-- The cells are the pairs of keys, row by row, each with what the chart says. -/
  cells : t.cells =
    (t.sources ×ˢ t.targets).map fun pair => (pair.1, pair.2, t.chart.value pair)
  /-- No pair occurs twice among them. -/
  cells_nodup : (t.cells.map fun (source, target, _) => (source, target)).Nodup
  /-- The table is complete just if every pair has a value. -/
  complete : t.isComplete = true ↔ ∀ pair ∈ t.sources ×ˢ t.targets, (t.chart.value pair).isSome

/-- **Every table shows its chart.** -/
theorem shows (t : Table) : Shows t where
  inside := by
    intro row hrow column hcolumn
    have hlt := cell_lt hrow hcolumn
    rw [Vector.size_toArray, Vector.size_toArray]
    exact ⟨hlt, hlt⟩
  place := by
    intro p hp q hq
    obtain ⟨i, hi⟩ := exists_cell hp hq
    exact ⟨i, hi, (cell_eq_ok hi).2.2⟩
  own := by
    intro i
    obtain ⟨p, _, q, _, hcell⟩ := exists_keys t i
    refine ⟨(p, q), hcell, fun pair hpair => ?_⟩
    obtain ⟨hp, hq⟩ := cell_inj hcell hpair
    exact Prod.ext hp hq
  cells := cells_eq t
  cells_nodup := by
    have hpairs : (t.cells.map fun (source, target, _) => (source, target)) =
        t.sources ×ˢ t.targets := by
      rw [cells_eq, List.map_map]
      exact List.map_id _
    rw [hpairs]
    exact t.sources_nodup.product t.targets_nodup
  complete := by
    rw [isComplete_iff_entry]
    constructor
    · intro h pair hpair
      obtain ⟨hp, hq⟩ := List.mem_product.mp hpair
      exact h pair.1 hp pair.2 hq
    · intro h p hp q hq
      exact h (p, q) (List.mem_product.mpr ⟨hp, hq⟩)

/--
**A table is two maps on the pairs of its keys.**

A table can be made just if no key repeats among the sources or among the targets, and the refusal
names the first that does. Its maps then say the default and no rate, those of a comparison what the
two sides say. Whatever is done with any table after that, it answers as the maps do and holds what
they hold, and its cells are the pairs of its keys, each once.
-/
theorem accesses_answer_as_maps :
    (∀ sources targets default,
      (∀ fault, make sources targets default = .error fault ↔ ∃ key, fault = .duplicate key ∧
        (FirstRepeat sources key ∨ sources.Nodup ∧ FirstRepeat targets key)) ∧
      ((∃ t, make sources targets default = .ok t) ↔ sources.Nodup ∧ targets.Nodup) ∧
      ∀ t, make sources targets default = .ok t → t.chart = .plain sources targets default) ∧
    (∀ own other c, compare own other = .ok c → c.chart =
      { own.chart with
        value := fun pair => compareValue (own.chart.value pair) (other.chart.value pair)
        rate := fun _ => none }) ∧
    ∀ (t : Table) (accesses : List Access),
      (inTurn access accesses t).1 = (inTurn Chart.access accesses t.chart).1 ∧
      (inTurn access accesses t).2.chart = (inTurn Chart.access accesses t.chart).2 ∧
      Shows (inTurn access accesses t).2 := by
  refine ⟨fun sources targets default => ⟨fun _ => make_eq_error_iff, ⟨?_, ?_⟩, ?_⟩,
    fun _ _ _ => chart_compare, fun t accesses => ?_⟩
  · rintro ⟨t, ht⟩
    obtain ⟨rfl, rfl, _⟩ := make_eq_ok ht
    exact ⟨t.sources_nodup, t.targets_nodup⟩
  · rintro ⟨hs, ht⟩
    exact exists_make hs ht default
  · exact fun t => chart_make
  · have h := accesses_chart accesses t
    exact ⟨congrArg Prod.fst h, congrArg Prod.snd h, shows _⟩

/-- A row of two cells: one is written and read, the other is missing, and keys that are not known
are refused, the source before the target. Compared with itself the row has what it has. -/
theorem accesses_answer_as_maps_of_one_row :
    ∃ t c, make ["a"] ["b", "c"] none = .ok t ∧ t.compare t = .ok c ∧
      (inTurn access [⟨"a", "b", .set true⟩, ⟨"a", "b", .get⟩, ⟨"a", "c", .get⟩,
          ⟨"x", "y", .value⟩, ⟨"a", "y", .setRate ⟨.zero false⟩⟩, ⟨"a", "b", .rate⟩] t).1 =
        [.ok .done, .ok (.got true), .error (.missing "a" "c"), .error (.unknownSource "x"),
          .error (.unknownTarget "y"), .ok (.rate none)] ∧
      (inTurn access [⟨"a", "b", .value⟩] c).1 = [.ok (.value none)] := by
  obtain ⟨hmake, hcompare, haccesses⟩ := accesses_answer_as_maps
  obtain ⟨_, hmade, hplain⟩ := hmake ["a"] ["b", "c"] none
  obtain ⟨t, ht⟩ := hmade.mpr ⟨by decide, by decide⟩
  obtain ⟨c, hc⟩ := exists_compare_iff.mpr (⟨rfl, rfl⟩ : t.SameKeys t)
  refine ⟨t, c, ht, hc, ?_, ?_⟩
  · rw [(haccesses t _).1, hplain t ht]
    rfl
  · rw [(haccesses c _).1, hcompare t t c hc, hplain t ht]
    rfl

end Table

end PodMesh
