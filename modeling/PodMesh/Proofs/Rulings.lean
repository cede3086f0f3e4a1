import Mathlib.Data.List.Count
import PodMesh.Proofs.Policy

/-!
# Rulings one after another

A ruling is a rule together with what it says of its pairs, and rulings may overlap in any way. Each
writes all of its pairs, so what is expected of a pair in the end is what the last ruling about
it said, and what was expected before if there was none (`ruling?`, `Built.exists_applyRulings`).
A write is found by printed keys, and it is because no two pods of a matrix are printed alike that
it reaches no other pair.

The matrix that is left has nothing else in it that a ruling could have changed (`Ruled.unique`), so
two orders of the same rulings give the same matrix as soon as they agree on who is last.
-/

namespace PodMesh

/-- A rule, and what it says of the pairs it is about. -/
structure Ruling extends Rule where
  connected : Bool
  deriving DecidableEq, Repr

/-- What the last ruling about a pair says of it. -/
def ruling? (rulings : List Ruling) (pair : Identity × Identity) : Option Bool :=
  (rulings.reverse.find? (·.covers pair)).map Ruling.connected

variable {pair : Identity × Identity} {r r' : Ruling}

theorem ruling?_append (before after : List Ruling) (pair : Identity × Identity) :
    ruling? (before ++ after) pair = (ruling? after pair).or (ruling? before pair) := by
  rw [ruling?, List.reverse_append, List.find?_append, Option.map_or]
  rfl

theorem ruling?_singleton (r : Ruling) (pair : Identity × Identity) :
    ruling? [r] pair = if r.covers pair then some r.connected else none := by
  rw [ruling?, List.reverse_singleton, List.find?_singleton]
  split
  · rfl
  · rfl

/-- The first ruling decides where no later one does. -/
theorem ruling?_cons (r : Ruling) (rest : List Ruling) (pair : Identity × Identity) :
    ruling? (r :: rest) pair =
      (ruling? rest pair).or (if r.covers pair then some r.connected else none) := by
  rw [← List.singleton_append, ruling?_append, ruling?_singleton]

/-- Two neighbours can be swapped, unless both are about the pair and they differ. -/
theorem ruling?_swap (h : r.connected = r'.connected ∨
    ¬ (r.covers pair = true ∧ r'.covers pair = true)) (before after : List Ruling) :
    ruling? (before ++ r :: r' :: after) pair = ruling? (before ++ r' :: r :: after) pair := by
  have hsplit : ∀ s s' : Ruling, ruling? (before ++ s :: s' :: after) pair =
      ((ruling? after pair).or (ruling? [s, s'] pair)).or (ruling? before pair) := by
    intro s s'
    rw [ruling?_append, ← ruling?_append [s, s'] after]
    rfl
  have htwo : ruling? [r, r'] pair = ruling? [r', r] pair := by
    rw [ruling?_cons r [r'], ruling?_cons r' [r], ruling?_singleton, ruling?_singleton]
    by_cases hr : r.covers pair = true
    · by_cases hr' : r'.covers pair = true
      · have hsame : r.connected = r'.connected := h.resolve_right fun hno => hno ⟨hr, hr'⟩
        rw [if_pos hr, if_pos hr', hsame]
      · rw [if_pos hr, if_neg hr', Option.none_or, Option.or_none]
    · rw [if_neg hr, Option.none_or, Option.or_none]
  rw [hsplit, hsplit, htwo]

namespace Matrix

variable {m m' m'' : Matrix} {rulings others : List Ruling}

/-- Applies rulings in order, and counts the pairs of each. -/
def applyRulings (m : Matrix) : List Ruling → Except Fault (Matrix × List Nat)
  | [] => .ok (m, [])
  | r :: rest => do
    let (m, pairs) ← m.expectPeers r.source r.target r.connected
    let (m, counts) ← m.applyRulings rest
    return (m, pairs :: counts)

/-! ## One ruling -/

/-- Two peers cover as many pairs as the one has sources times the other has targets. -/
theorem length_covered (m : Matrix) (s t : Peer) :
    (m.covered s t).length = m.pods.countP s.covers * m.pods.countP t.covers := by
  have hprod : m.covered s t = m.pods.filter s.covers ×ˢ m.pods.filter t.covers := rfl
  rw [hprod, List.length_product, List.countP_eq_length_filter, List.countP_eq_length_filter]

theorem expectPeers_count {s t : Peer} {connected : Bool} {n : Nat}
    (h : m.expectPeers s t connected = .ok (m', n)) :
    n = m.pods.countP s.covers * m.pods.countP t.covers := by
  obtain ⟨m₁, _, h⟩ := bind_eq_ok.mp h
  injection h with h
  injection h with _ h
  rw [← h, length_covered]

/-- Expectations have no rates, and setting them brings none. -/
theorem expectPeers_rate {s t : Peer} {connected : Bool} {n : Nat}
    (h : m.expectPeers s t connected = .ok (m', n)) : m'.expected.rate = m.expected.rate := by
  refine expectPeers_preserves (fun m₁ => m₁.expected.rate = m.expected.rate)
    (fun h₁ hkept => ?_) h rfl
  obtain ⟨t, ht, rfl⟩ := expect_eq_ok h₁
  rw [← hkept]
  funext p q
  exact Table.rate_set ht p q

/-! ## Any number of rulings -/

/-- What rulings make of a matrix. -/
structure Ruled (m : Matrix) (rulings : List Ruling) (m' : Matrix) : Prop where
  built : m'.Built
  pods : m'.pods = m.pods
  observed : m'.observed = m.observed
  rate : m'.expected.rate = m.expected.rate
  /-- The last ruling about a pair decides what is expected of it. -/
  expected : ∀ pair ∈ m.pairs, m'.expected? pair = (ruling? rulings pair).or (m.expected? pair)

/-- **Rulings can be applied, each to all of its pairs, and the last about a pair decides it.** -/
theorem Built.exists_applyRulings (rulings : List Ruling) {m : Matrix} (hb : m.Built) :
    ∃ m', m.applyRulings rulings = .ok (m', rulings.map fun r =>
      m.pods.countP r.source.covers * m.pods.countP r.target.covers) ∧ m.Ruled rulings m' := by
  induction rulings generalizing m with
  | nil => exact ⟨m, rfl, hb, rfl, rfl, rfl, fun _ _ => rfl⟩
  | cons r rest ih =>
    obtain ⟨m₁, n, h₁, hb₁, hpods₁, hobs₁, hexp₁⟩ :=
      hb.exists_expectPeers r.source r.target r.connected
    have hn := expectPeers_count h₁
    have hpairs₁ : m₁.pairs = m.pairs := by rw [Matrix.pairs, hpods₁, Matrix.pairs]
    obtain ⟨m', h', hruled⟩ := ih hb₁
    rw [hpods₁] at h'
    refine ⟨m', ?_, hruled.built, hruled.pods.trans hpods₁, hruled.observed.trans hobs₁,
      hruled.rate.trans (expectPeers_rate h₁), fun pair hpair => ?_⟩
    · rw [List.map_cons, ← hn]
      exact bind_eq_ok.mpr ⟨(m₁, n), h₁, bind_eq_ok.mpr ⟨_, h', rfl⟩⟩
    · -- the rulings behind it decide first, then this one, then what was expected before
      rw [hruled.expected pair (hpairs₁ ▸ hpair), hexp₁ pair hpair, ruling?_cons, Option.or_assoc]
      congr 1
      split
      · rfl
      · rfl

/-- Sound matrices over the same pods that expect the same of every pair are the same, if nothing
but that could tell them apart. -/
theorem Sound.eq_of_expected? (hs : m.Sound) (hs' : m'.Sound) (hpods : m.pods = m'.pods)
    (hobs : m.observed = m'.observed) (hrate : m.expected.rate = m'.expected.rate)
    (h : ∀ pair ∈ m.pairs, m.expected? pair = m'.expected? pair) : m = m' := by
  have hkeys : m.keys = m'.keys := by rw [keys, keys, hpods]
  have hsources : m.expected.sources = m'.expected.sources := by
    rw [hs.expected_sources, hs'.expected_sources, hkeys]
  have htargets : m.expected.targets = m'.expected.targets := by
    rw [hs.expected_targets, hs'.expected_targets, hkeys]
  have hexpected : m.expected = m'.expected := by
    refine Table.eq_of_cells ⟨hsources, htargets⟩ (fun p hp q hq => ?_) fun p _ q _ => ?_
    · rw [Table.value_eq_entry hp hq,
        Table.value_eq_entry (hsources ▸ hp) (htargets ▸ hq)]
      rw [hs.expected_sources] at hp
      rw [hs.expected_targets] at hq
      obtain ⟨source, hsource, rfl⟩ := List.mem_map.mp hp
      obtain ⟨target, htarget, rfl⟩ := List.mem_map.mp hq
      exact congrArg Except.ok (h (source, target) (mem_pairs.mpr ⟨hsource, htarget⟩))
    · rw [hrate]
  obtain ⟨pods, expected, observed⟩ := m
  obtain ⟨pods', expected', observed'⟩ := m'
  dsimp only at hpods hobs hexpected
  rw [hpods, hobs, hexpected]

/-- **A matrix is known by which rulings are the last.** -/
theorem Ruled.unique (h : m.Ruled rulings m') (h' : m.Ruled others m'')
    (hlast : ∀ pair ∈ m.pairs, ruling? rulings pair = ruling? others pair) : m' = m'' := by
  refine h.built.sound.eq_of_expected? h'.built.sound (h.pods.trans h'.pods.symm)
    (h.observed.trans h'.observed.symm) (h.rate.trans h'.rate.symm) fun pair hpair => ?_
  have hpair₀ : pair ∈ m.pairs := by rwa [Matrix.pairs, h.pods] at hpair
  rw [h.expected pair hpair₀, h'.expected pair hpair₀, hlast pair hpair₀]

/--
**The last ruling about a pair wins.**

On a new matrix any rulings can be applied one after another. Each counts the pods its source covers
times those its target covers, none touches the pods or what was observed, and in the end the last
ruling about a pair says what is expected of it, or the default if there is none. So a ruling
between any pods decides all pairs, and two neighbours that agree, or have no pair of pods in
common, can be swapped.
-/
theorem last_ruling_wins {pods : List Identity} {default : Bool}
    (hmake : make pods default = .ok m) :
    (∀ rulings, ∃ m', m.applyRulings rulings = .ok (m', rulings.map fun r =>
        pods.countP r.source.covers * pods.countP r.target.covers) ∧
      m'.pods = pods ∧ m'.observed = m.observed ∧ ∀ pair ∈ pods ×ˢ pods,
        m'.expectation pair.1 pair.2 = .ok ((ruling? rulings pair).getD default)) ∧
    (∀ rulings v, ∃ m' counts, m.applyRulings (rulings ++ [⟨⟨.any, .any⟩, v⟩]) =
        .ok (m', counts ++ [pods.length * pods.length]) ∧
      ∀ pair ∈ pods ×ˢ pods, m'.expectation pair.1 pair.2 = .ok v) ∧
    ∀ before after r r', (r.connected = r'.connected ∨ ∀ pair ∈ pods ×ˢ pods,
        ¬ (Rule.covers r.toRule pair = true ∧ Rule.covers r'.toRule pair = true)) →
      ∃ m' counts counts', m.applyRulings (before ++ r :: r' :: after) = .ok (m', counts) ∧
        m.applyRulings (before ++ r' :: r :: after) = .ok (m', counts') := by
  have hpods : m.pods = pods := (make_eq_ok hmake).1
  have hpairs : m.pairs = pods ×ˢ pods := by rw [pairs, hpods]
  have hruled : ∀ rulings, ∃ m', m.applyRulings rulings = .ok (m', rulings.map fun r =>
      pods.countP r.source.covers * pods.countP r.target.covers) ∧ m.Ruled rulings m' := by
    intro rulings
    rw [← hpods]
    exact (Built.make hmake).exists_applyRulings rulings
  have hexpects : ∀ {rulings m'}, m.Ruled rulings m' → ∀ pair ∈ pods ×ˢ pods,
      m'.expectation pair.1 pair.2 = .ok ((ruling? rulings pair).getD default) := by
    intro rulings m' h pair hpair
    rw [← hpairs] at hpair
    rw [expectation_eq_ok_iff, h.expected pair hpair, expected?_make hmake hpair]
    exact Option.or_some
  refine ⟨fun rulings => ?_, fun rulings v => ?_, fun before after r r' hswap => ?_⟩
  · obtain ⟨m', happly, h⟩ := hruled rulings
    exact ⟨m', happly, h.pods.trans hpods, h.observed, hexpects h⟩
  · obtain ⟨m', happly, h⟩ := hruled (rulings ++ [⟨⟨.any, .any⟩, v⟩])
    have hall : pods.countP Peer.any.covers = pods.length :=
      List.countP_eq_length.mpr fun _ _ => rfl
    rw [List.map_append, List.map_singleton, hall] at happly
    refine ⟨m', _, happly, fun pair hpair => ?_⟩
    rw [hexpects h pair hpair, ruling?_append, ruling?_singleton]
    rfl
  · obtain ⟨m', happly, h⟩ := hruled (before ++ r :: r' :: after)
    obtain ⟨m'', happly', h'⟩ := hruled (before ++ r' :: r :: after)
    have hsame : m' = m'' := h.unique h' fun pair hpair =>
      ruling?_swap (hswap.imp_right fun hno => hno pair (hpairs ▸ hpair)) before after
    exact ⟨m', _, _, happly, hsame ▸ happly'⟩

/-- Three rulings that overlap, over pods with slashes in their names. The second takes a pair from
the first and the third one from the second, and one pair is left to the default. -/
theorem last_ruling_wins_of_three :
    let pods : List Identity := [⟨"a", "x"⟩, ⟨"a/b", "x"⟩, ⟨"b", "y/x"⟩]
    let rulings : List Ruling := [⟨⟨⟨some "a", none⟩, .any⟩, false⟩,
      ⟨⟨.any, ⟨none, some "x"⟩⟩, true⟩, ⟨⟨⟨some "a/b", none⟩, ⟨some "a", some "x"⟩⟩, false⟩]
    ∃ m m', make pods true = .ok m ∧ m.applyRulings rulings = .ok (m', [3, 6, 1]) ∧
      m'.expectation ⟨"a", "x"⟩ ⟨"b", "y/x"⟩ = .ok false ∧
      m'.expectation ⟨"a", "x"⟩ ⟨"a", "x"⟩ = .ok true ∧
      m'.expectation ⟨"a/b", "x"⟩ ⟨"a", "x"⟩ = .ok false ∧
      m'.expectation ⟨"b", "y/x"⟩ ⟨"b", "y/x"⟩ = .ok true := by
  intro pods rulings
  have hnodup : (pods.map Identity.text).Nodup := by decide
  obtain ⟨m, hmake⟩ := exists_make hnodup true
  obtain ⟨m', happly, _, _, hexpects⟩ := (last_ruling_wins hmake).1 rulings
  refine ⟨m, m', hmake, happly, ?_, ?_, ?_, ?_⟩
  · exact hexpects (⟨"a", "x"⟩, ⟨"b", "y/x"⟩) (by decide)
  · exact hexpects (⟨"a", "x"⟩, ⟨"a", "x"⟩) (by decide)
  · exact hexpects (⟨"a/b", "x"⟩, ⟨"a", "x"⟩) (by decide)
  · exact hexpects (⟨"b", "y/x"⟩, ⟨"b", "y/x"⟩) (by decide)

end Matrix

end PodMesh
