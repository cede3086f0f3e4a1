import Mathlib.Data.List.Nodup
import PodMesh.Matrix.Tally
import PodMesh.Proofs.Comparison
import PodMesh.Proofs.Matrix

/-!
# What a tally counts

In a sound matrix something is expected of every pair, so a pair that counts either meets its
expectation or is wrong, and a pair without an observation is wrong. A tally of a sound matrix
never fails, and what it finds incorrect are the wrong pairs (`Sound.tally_eq`).
-/

namespace PodMesh.Matrix

/-- Every ordered pair of pods of a matrix, row by row. -/
def pairs (m : Matrix) : List (Identity × Identity) := m.pods ×ˢ m.pods

/-- Does a pair count, or is it a pod with itself and left out? -/
def counts (ignoreLoopback : Bool) (pair : Identity × Identity) : Bool :=
  !(ignoreLoopback && pair.1 = pair.2)

/-- What is expected of a pair. -/
def expected? (m : Matrix) (pair : Identity × Identity) : Option Bool :=
  m.expected.entry pair.1.text pair.2.text

/-- What was observed of a pair. -/
def observed? (m : Matrix) (pair : Identity × Identity) : Option Bool :=
  m.observed.entry pair.1.text pair.2.text

/-- The pairs that count and were not observed as expected. -/
def wrong (m : Matrix) (ignoreLoopback : Bool) : List (Identity × Identity) :=
  m.pairs.filter fun pair => counts ignoreLoopback pair && m.observed? pair ≠ m.expected? pair

/-- How a pair counts. -/
def standingOf (m : Matrix) (ignoreLoopback : Bool) (pair : Identity × Identity) : Standing :=
  if counts ignoreLoopback pair then
    if m.observed? pair = m.expected? pair then .correct else .incorrect
  else .ignored

variable {m : Matrix} {pair : Identity × Identity}

theorem mem_pairs : pair ∈ m.pairs ↔ pair.1 ∈ m.pods ∧ pair.2 ∈ m.pods :=
  List.mem_product

theorem counts_iff {ignoreLoopback : Bool} :
    counts ignoreLoopback pair = true ↔ (ignoreLoopback = true → pair.1 ≠ pair.2) := by
  cases ignoreLoopback <;> simp [counts]

theorem expectation_eq_ok_iff {source target : Identity} {v : Bool} :
    m.expectation source target = .ok v ↔ m.expected? (source, target) = some v :=
  Table.get_eq_ok_iff

/-- A new matrix expects the same of every pair. -/
theorem expected?_make {pods : List Identity} {default : Bool} (h : make pods default = .ok m)
    (hpair : pair ∈ m.pairs) : m.expected? pair = some default := by
  obtain ⟨_, hsquare, _⟩ := make_eq_ok h
  obtain ⟨hsources, htargets, hvalues, _⟩ := square_eq_ok hsquare
  obtain ⟨hp, hq⟩ := mem_pairs.mp hpair
  obtain ⟨i, hi⟩ := Table.exists_cell (hsources ▸ mem_keys hp) (htargets ▸ mem_keys hq)
  rw [expected?, Table.entry_of_cell hi]
  exact hvalues _ (Vector.getElem_mem _)

theorem Sound.sameKeys (hs : m.Sound) : m.expected.SameKeys m.observed :=
  ⟨hs.expected_sources.trans hs.observed_sources.symm,
    hs.expected_targets.trans hs.observed_targets.symm⟩

/-- Something is expected of every pair. -/
theorem Sound.exists_expected (hs : m.Sound) (h : pair ∈ m.pairs) :
    ∃ v, m.expected? pair = some v := by
  obtain ⟨hp, hq⟩ := mem_pairs.mp h
  exact Option.isSome_iff_exists.mp <| Table.isComplete_iff_entry.mp hs.complete _
    (hs.expected_sources ▸ mem_keys hp) _ (hs.expected_targets ▸ mem_keys hq)

/-- Pods of a sound matrix that are printed alike are the same. -/
theorem Sound.text_inj (hs : m.Sound) {p q : Identity} (hp : p ∈ m.pods) (hq : q ∈ m.pods) :
    p.text = q.text ↔ p = q :=
  ⟨fun h => List.inj_on_of_nodup_map hs.keys_nodup hp hq h, fun h => h ▸ rfl⟩

theorem map_text_pairs (m : Matrix) :
    m.pairs.map (Prod.map Identity.text Identity.text) = m.keys ×ˢ m.keys := by
  simp [pairs, keys, SProd.sprod, List.product, List.map_flatMap, List.flatMap_map,
    Function.comp_def]

/-- What the comparison says of a pair. -/
theorem compareValue_eq (hs : m.Sound) (h : pair ∈ m.pairs) :
    Table.compareValue (m.expected? pair) (m.observed? pair) =
      some (decide (m.observed? pair = m.expected? pair)) := by
  obtain ⟨v, hv⟩ := hs.exists_expected h
  rw [hv, Table.compareValue, Option.map_some, decide_eq_decide.mpr eq_comm]

/-- **The comparison of a sound matrix tells of each pair whether it meets its expectation.** -/
theorem Sound.exists_comparison (hs : m.Sound) : ∃ c, m.expected.compare m.observed = .ok c ∧
    c.isComplete = true ∧ c.cells = m.pairs.map fun pair =>
      (pair.1.text, pair.2.text, some (decide (m.observed? pair = m.expected? pair))) := by
  obtain ⟨c, hc, hk, he⟩ := Table.exists_compare hs.sameKeys
  have hsources : c.sources = m.keys := hk.1.trans hs.expected_sources
  have htargets : c.targets = m.keys := hk.2.trans hs.expected_targets
  have hentry : ∀ pair ∈ m.pairs, c.entry pair.1.text pair.2.text =
      some (decide (m.observed? pair = m.expected? pair)) := by
    intro pair h
    obtain ⟨hp, hq⟩ := mem_pairs.mp h
    rw [← compareValue_eq hs h]
    exact he _ (hs.expected_sources ▸ mem_keys hp) _ (hs.expected_targets ▸ mem_keys hq)
  refine ⟨c, hc, Table.isComplete_iff_entry.mpr fun p hp q hq => ?_, ?_⟩
  · rw [hsources] at hp
    rw [htargets] at hq
    obtain ⟨source, hsource, rfl⟩ := List.mem_map.mp hp
    obtain ⟨target, htarget, rfl⟩ := List.mem_map.mp hq
    rw [hentry (source, target) (mem_pairs.mpr ⟨hsource, htarget⟩)]
    rfl
  · rw [Table.cells_eq, hsources, htargets, ← map_text_pairs, List.map_map]
    refine List.map_congr_left fun pair h => ?_
    simp only [Function.comp_apply, Prod.map, hentry pair h]

/-- The cell of a pair in the comparison counts as the pair does. -/
theorem standing_eq (hs : m.Sound) (h : pair ∈ m.pairs) (ignoreLoopback : Bool) :
    standing ignoreLoopback (pair.1.text, pair.2.text,
      some (decide (m.observed? pair = m.expected? pair))) = m.standingOf ignoreLoopback pair := by
  obtain ⟨hp, hq⟩ := mem_pairs.mp h
  unfold standing standingOf counts
  simp only [hs.text_inj hp hq]
  cases ignoreLoopback && decide (pair.1 = pair.2) with
  | true => rfl
  | false =>
    by_cases hmeets : m.observed? pair = m.expected? pair
    · simp [hmeets]
    · simp [hmeets]

theorem count_incorrect (m : Matrix) (ignoreLoopback : Bool) :
    (m.pairs.map (m.standingOf ignoreLoopback)).count .incorrect =
      (m.wrong ignoreLoopback).length := by
  rw [List.count_eq_countP, List.countP_map, List.countP_eq_length_filter, wrong]
  refine congrArg List.length (List.filter_congr fun pair _ => ?_)
  simp only [Function.comp_apply, standingOf]
  cases counts ignoreLoopback pair with
  | false => rfl
  | true =>
    by_cases hmeets : m.observed? pair = m.expected? pair
    · simp [hmeets]
    · simp [hmeets]

/-- **The tally of a sound matrix counts how its pairs stand, and finds no observation missing.** -/
theorem Sound.exists_tally (hs : m.Sound) (ignoreLoopback : Bool) : ∃ c,
    m.tally ignoreLoopback = .ok ({
      correct := (m.pairs.map (m.standingOf ignoreLoopback)).count .correct
      incorrect := (m.pairs.map (m.standingOf ignoreLoopback)).count .incorrect
      ignored := (m.pairs.map (m.standingOf ignoreLoopback)).count .ignored
      comparison := c }, []) ∧
    c.isComplete = true ∧ c.cells = m.pairs.map fun pair =>
      (pair.1.text, pair.2.text, some (decide (m.observed? pair = m.expected? pair))) := by
  obtain ⟨c, hc, hcomplete, hcells⟩ := hs.exists_comparison
  have hstandings : c.cells.map (standing ignoreLoopback) =
      m.pairs.map (m.standingOf ignoreLoopback) := by
    rw [hcells, List.map_map]
    exact List.map_congr_left fun pair h => standing_eq hs h ignoreLoopback
  refine ⟨c, ?_, hcomplete, hcells⟩
  unfold tally
  rw [hc]
  simp only [bind, Except.bind, pure, Except.pure, hcomplete, if_true, hstandings]

/-- What a tally finds incorrect are the wrong pairs. -/
theorem Sound.tally_eq (hs : m.Sound) (ignoreLoopback : Bool) :
    ∃ t, m.tally ignoreLoopback = .ok (t, []) ∧
      t.incorrect = (m.wrong ignoreLoopback).length := by
  obtain ⟨c, htally, _⟩ := hs.exists_tally ignoreLoopback
  exact ⟨_, htally, m.count_incorrect ignoreLoopback⟩

/-- Whatever grids are asked for, the report gives the tally. -/
theorem Sound.report_eq (hs : m.Sound) (ignoreLoopback : Bool) (grids : Grids) :
    ∃ t notices, m.report ignoreLoopback grids = .ok (t, notices) ∧
      t.incorrect = (m.wrong ignoreLoopback).length := by
  obtain ⟨t, ht, hwrong⟩ := hs.tally_eq ignoreLoopback
  unfold report
  rw [ht]
  exact ⟨t, _, rfl, hwrong⟩

end PodMesh.Matrix
