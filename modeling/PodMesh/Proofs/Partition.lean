import PodMesh.Proofs.History

/-!
# How a tally splits the pairs

After any calls on a new matrix every ordered pair of its pods falls into exactly one of three
parts: it is ignored, or it was observed as expected, or neither. A tally counts these parts
(`Split`), and leaving out the pairs of a pod with itself moves one pair for each pod out of
the other two (`calls_tally_splits`).

A pair that was never observed is among the incorrect ones, and that is all that is ever said of
it. Whether observations are reported missing depends on the comparison, which has a value
wherever the expectations have one. So the notice is given exactly if an expectation is
missing (`tally_notices_eq`), and to a matrix made here that never happens
(`calls_never_tell_missing`).
-/

namespace PodMesh.Matrix

open Pass

variable {m m₀ : Matrix} {pods : List Identity} {default : Bool} {pair : Identity × Identity}

/-! ## Three parts -/

/-- Was a pair observed, and as expected? -/
def meets (m : Matrix) (pair : Identity × Identity) : Bool :=
  (m.observed? pair).isSome && m.observed? pair = m.expected? pair

/-- A tally that splits the pairs of `size` pods. -/
structure Split (size : Nat) (m : Matrix) (ignoreLoopback : Bool) (t : Tally) : Prop where
  /-- Every pair is in one part. -/
  total : t.correct + t.incorrect + t.ignored = size * size
  /-- One part is the pairs of a pod with itself, if these are left out. -/
  ignored : t.ignored = if ignoreLoopback then size else 0
  /-- One part is what was observed as expected. -/
  correct : t.correct = m.pairs.countP fun pair => counts ignoreLoopback pair && m.meets pair
  /-- One part is all other pairs, those without an observation among them. -/
  incorrect : t.incorrect = m.pairs.countP fun pair => counts ignoreLoopback pair && !m.meets pair
  /-- The comparison goes without a value nowhere. -/
  complete : t.comparison.isComplete = true
  /-- It tells of each pair whether it was observed as expected. -/
  cells : t.comparison.cells =
    m.pairs.map fun pair => (pair.1.text, pair.2.text, some (m.meets pair))

/-- Where something is expected, a pair without an observation is not as expected. -/
theorem Sound.meets_eq (hs : m.Sound) (h : pair ∈ m.pairs) :
    m.meets pair = decide (m.observed? pair = m.expected? pair) := by
  obtain ⟨v, hv⟩ := hs.exists_expected h
  rw [meets, hv]
  cases m.observed? pair with
  | none => rfl
  | some w => rfl

/-- Of the pairs of two lists, as many are of one element twice as the first list has elements
that are in the second. -/
theorem countP_diagonal {α : Type} [DecidableEq α] {ys : List α} (hn : ys.Nodup) (xs : List α) :
    (xs ×ˢ ys).countP (fun pair => pair.1 = pair.2) = xs.countP (· ∈ ys) := by
  induction xs with
  | nil => rfl
  | cons x xs ih =>
    have hrow : (ys.map (Prod.mk x)).countP (fun pair => pair.1 = pair.2) =
        if x ∈ ys then 1 else 0 := by
      rw [List.countP_map, ← hn.count, List.count_eq_countP]
      refine List.countP_congr fun y _ => ?_
      rw [Function.comp_apply, decide_eq_true_iff, beq_iff_eq, eq_comm]
    rw [List.product_cons, List.countP_append, hrow, ih, List.countP_cons, Nat.add_comm]
    simp only [decide_eq_true_eq]

/-- As many pairs are left out as there are pods. -/
theorem countP_not_counts (hn : m.pods.Nodup) (ignoreLoopback : Bool) :
    m.pairs.countP (fun pair => !counts ignoreLoopback pair) =
      if ignoreLoopback then m.pods.length else 0 := by
  cases ignoreLoopback with
  | false => simp [counts]
  | true =>
    have hall : m.pods.countP (· ∈ m.pods) = m.pods.length :=
      List.countP_eq_length.mpr fun p hp => decide_eq_true hp
    rw [if_pos rfl, ← hall, ← countP_diagonal hn, pairs]
    exact List.countP_congr fun pair _ => by simp [counts]

/-- A list falls into three parts by one test, and where that holds by another. -/
theorem length_eq_countP_add {α : Type} (p q : α → Bool) (xs : List α) :
    xs.length = xs.countP (fun x => p x && q x) + xs.countP (fun x => p x && !q x) +
      xs.countP (fun x => !p x) := by
  induction xs with
  | nil => rfl
  | cons x xs ih =>
    rw [List.length_cons, ih, List.countP_cons, List.countP_cons, List.countP_cons]
    cases p x <;> cases q x <;> simp <;> omega

/-- The count of a standing is the count of the pairs that stand so. -/
theorem count_standingOf (ignoreLoopback : Bool) (standing : Standing)
    (test : Identity × Identity → Bool)
    (h : ∀ pair ∈ m.pairs, m.standingOf ignoreLoopback pair = standing ↔ test pair = true) :
    (m.pairs.map (m.standingOf ignoreLoopback)).count standing = m.pairs.countP test := by
  rw [List.count_eq_countP, List.countP_map]
  refine List.countP_congr fun pair hpair => ?_
  rw [Function.comp_apply, beq_iff_eq]
  exact h pair hpair

/-- **A tally of a sound matrix splits its pairs.** -/
theorem Sound.exists_split (hs : m.Sound) (ignoreLoopback : Bool) :
    ∃ t, m.tally ignoreLoopback = .ok (t, []) ∧ Split m.pods.length m ignoreLoopback t := by
  obtain ⟨c, htally, hcomplete, hcells⟩ := hs.exists_tally ignoreLoopback
  have hn : m.pods.Nodup := .of_map Identity.text hs.keys_nodup
  have hcorrect := count_standingOf ignoreLoopback .correct
    (fun pair => counts ignoreLoopback pair && m.meets pair) fun pair h => by
      rw [hs.meets_eq h, standingOf]
      cases counts ignoreLoopback pair <;> simp
  have hincorrect := count_standingOf ignoreLoopback .incorrect
    (fun pair => counts ignoreLoopback pair && !m.meets pair) fun pair h => by
      rw [hs.meets_eq h, standingOf]
      cases counts ignoreLoopback pair <;> simp
  have hignored := count_standingOf ignoreLoopback .ignored
    (fun pair => !counts ignoreLoopback pair) fun pair (_ : pair ∈ m.pairs) => by
      rw [standingOf]
      cases counts ignoreLoopback pair with
      | false => simp
      | true =>
        by_cases hmeets : m.observed? pair = m.expected? pair
        · simp [hmeets]
        · simp [hmeets]
  have hsize : m.pairs.length = m.pods.length * m.pods.length := List.length_product ..
  refine ⟨_, htally, ?_, hignored.trans (countP_not_counts hn ignoreLoopback), hcorrect,
    hincorrect, hcomplete, ?_⟩
  · dsimp only
    rw [hcorrect, hincorrect, hignored, ← hsize]
    exact (length_eq_countP_add _ _ _).symm
  · dsimp only
    rw [hcells]
    exact List.map_congr_left fun pair h => by rw [hs.meets_eq h]

/-! ## With and without the pairs of a pod with itself -/

/-- A pair is correct or incorrect without the pairs left out only if it is with them. -/
theorem countP_counts_le (test : Identity × Identity → Bool) (xs : List (Identity × Identity)) :
    xs.countP (fun pair => counts true pair && test pair) ≤
      xs.countP fun pair => counts false pair && test pair :=
  List.countP_mono_left fun pair _ h => by
    simp only [Bool.and_eq_true] at h ⊢
    exact ⟨rfl, h.2⟩

/--
**A tally splits the pairs, whatever was called before.**

After any calls on a new matrix over some pods it can be counted with and without the pairs of a
pod with itself. Either count puts every pair into one of three parts, and a pair without an
observation is among the incorrect ones. Leaving out the pairs of a pod with itself takes one
pair for each pod from the correct and the incorrect ones.
-/
theorem calls_tally_splits (hmake : make pods default = .ok m₀) (calls : List Call) :
    let m := calls.foldl called m₀
    ∃ all others, m.tally false = .ok (all, []) ∧ Split pods.length m false all ∧
      m.tally true = .ok (others, []) ∧ Split pods.length m true others ∧
      others.correct ≤ all.correct ∧ others.incorrect ≤ all.incorrect ∧
      (all.correct - others.correct) + (all.incorrect - others.incorrect) = pods.length := by
  intro m
  obtain ⟨hb, hretains⟩ := calls_keep calls (.make hmake)
  have hpods : m.pods = pods := hretains.pods_eq.trans (make_eq_ok hmake).1
  obtain ⟨all, hall, hsplit⟩ := hb.sound.exists_split false
  obtain ⟨others, hothers, hsplit'⟩ := hb.sound.exists_split true
  rw [hpods] at hsplit hsplit'
  have hcorrect : others.correct ≤ all.correct := by
    rw [hsplit.correct, hsplit'.correct]
    exact countP_counts_le m.meets m.pairs
  have hincorrect : others.incorrect ≤ all.incorrect := by
    rw [hsplit.incorrect, hsplit'.incorrect]
    exact countP_counts_le (fun pair => !m.meets pair) m.pairs
  refine ⟨all, others, hall, hsplit, hothers, hsplit', hcorrect, hincorrect, ?_⟩
  have htotal := hsplit.total.trans hsplit'.total.symm
  have hignored : all.ignored = 0 := hsplit.ignored
  have hignored' : others.ignored = pods.length := hsplit'.ignored
  omega

/-- One pod reaches itself as expected and was not seen to reach the other. The first of these
pairs is the one that goes. -/
theorem calls_tally_splits_on_two_pods :
    let m := [Call.observe ⟨"n", "a"⟩ ⟨"n", "a"⟩ true].foldl called twoPodsMatrix
    ∃ all others, m.tally false = .ok (all, []) ∧ Split 2 m false all ∧
      m.tally true = .ok (others, []) ∧ Split 2 m true others ∧
      (all.correct, all.incorrect, all.ignored) = (1, 3, 0) ∧
      (others.correct, others.incorrect, others.ignored) = (0, 2, 2) := by
  intro m
  have hmake : make twoPods.ids true = .ok twoPodsMatrix := rfl
  obtain ⟨all, others, hall, hsplit, hothers, hsplit', _⟩ :=
    calls_tally_splits hmake [.observe ⟨"n", "a"⟩ ⟨"n", "a"⟩ true]
  refine ⟨all, others, hall, hsplit, hothers, hsplit', ?_, ?_⟩
  · rw [hsplit.correct, hsplit.incorrect, hsplit.ignored]
    decide
  · rw [hsplit'.correct, hsplit'.incorrect, hsplit'.ignored]
    decide

/-! ## Missing observations -/

/-- Are observations reported missing? -/
def TellsMissing (notices : List Notice) : Prop := .observationsIncomplete ∈ notices

/-- A tally says nothing, unless an expectation is missing. -/
theorem tally_notices_eq {ignoreLoopback : Bool} {t : Tally} {notices : List Notice}
    (h : m.tally ignoreLoopback = .ok (t, notices)) :
    notices = if m.expected.isComplete then [] else [.observationsIncomplete] := by
  obtain ⟨c, hc, h⟩ := bind_eq_ok.mp h
  injection h with h
  injection h with _ h
  rw [← h, Table.isComplete_compare hc]

/-- A report says of missing observations what the tally does. -/
theorem exists_tally_of_report {ignoreLoopback : Bool} {grids : Grids} {t : Tally}
    {notices : List Notice} (h : m.report ignoreLoopback grids = .ok (t, notices)) :
    ∃ said, m.tally ignoreLoopback = .ok (t, said) ∧
      (TellsMissing notices ↔ TellsMissing said) := by
  obtain ⟨⟨t', said⟩, ht, h⟩ := bind_eq_ok.mp h
  injection h with h
  injection h with hte hn
  subst hte
  refine ⟨said, ht, ?_⟩
  have hshown : ∀ (wanted : Bool) (title text : String),
      .observationsIncomplete ∉ if wanted then [Notice.grid title text] else [] := by
    intro wanted title text
    cases wanted <;> simp
  have hignored : .observationsIncomplete ∉
      if 0 < t'.ignored then [Notice.loopbackIgnored t'.ignored] else [] := by
    split <;> simp
  rw [TellsMissing, ← hn]
  simp only [List.mem_append, hshown, hignored, List.mem_singleton, or_false, TellsMissing,
    reduceCtorEq]

/-- **Observations are reported missing exactly if an expectation is.** What was observed has no
part in it. -/
theorem tells_missing_iff (m : Matrix) (ignoreLoopback : Bool) :
    (∀ t notices, m.tally ignoreLoopback = .ok (t, notices) →
      (TellsMissing notices ↔ ∃ p ∈ m.expected.sources, ∃ q ∈ m.expected.targets,
        m.expected.entry p q = none)) ∧
    ∀ grids t notices, m.report ignoreLoopback grids = .ok (t, notices) →
      (TellsMissing notices ↔ ∃ p ∈ m.expected.sources, ∃ q ∈ m.expected.targets,
        m.expected.entry p q = none) := by
  have hmissing : m.expected.isComplete = false ↔ ∃ p ∈ m.expected.sources,
      ∃ q ∈ m.expected.targets, m.expected.entry p q = none := by
    rw [← Bool.not_eq_true, Table.isComplete_iff_entry]
    simp only [not_forall, exists_prop, Bool.not_eq_true, Option.isSome_eq_false_iff,
      Option.isNone_iff_eq_none]
  have htally : ∀ t notices, m.tally ignoreLoopback = .ok (t, notices) →
      (TellsMissing notices ↔ m.expected.isComplete = false) := by
    intro t notices h
    rw [TellsMissing, tally_notices_eq h]
    cases m.expected.isComplete <;> simp
  refine ⟨fun t notices h => (htally t notices h).trans hmissing, fun grids t notices h => ?_⟩
  obtain ⟨said, ht, hsaid⟩ := exists_tally_of_report h
  exact hsaid.trans ((htally t said ht).trans hmissing)

/-- **A matrix made here is never reported to lack observations, however many it lacks.** -/
theorem calls_never_tell_missing (hmake : make pods default = .ok m₀) (calls : List Call)
    (ignoreLoopback : Bool) (grids : Grids) :
    let m := calls.foldl called m₀
    (∃ t notices, m.tally ignoreLoopback = .ok (t, notices) ∧ ¬ TellsMissing notices) ∧
      ∃ t notices, m.report ignoreLoopback grids = .ok (t, notices) ∧ ¬ TellsMissing notices := by
  intro m
  have hs : m.Sound := (calls_keep calls (.make hmake)).1.sound
  obtain ⟨t, ht, _⟩ := hs.tally_eq ignoreLoopback
  obtain ⟨t', notices, hreport, _⟩ := hs.report_eq ignoreLoopback grids
  obtain ⟨said, ht', hsaid⟩ := exists_tally_of_report hreport
  have hnil : said = [] := by rw [tally_notices_eq ht', if_pos hs.complete]
  refine ⟨⟨t, [], ht, List.not_mem_nil⟩, t', notices, hreport, ?_⟩
  rw [hsaid, hnil]
  exact List.not_mem_nil

/-- Nothing was observed of two pods yet, and a tally and a report keep silent about it. -/
theorem silent_on_new_matrix : make twoPods.ids true = .ok twoPodsMatrix ∧
    (∀ pair ∈ twoPodsMatrix.pairs, twoPodsMatrix.observed? pair = none) ∧
    (twoPodsMatrix.tally false).map Prod.snd = .ok [] ∧
    (twoPodsMatrix.report false {}).map Prod.snd = .ok [.tally 0 4] :=
  ⟨rfl, by decide, rfl, rfl⟩

end PodMesh.Matrix
