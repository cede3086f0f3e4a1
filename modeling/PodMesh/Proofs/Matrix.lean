import PodMesh.Matrix
import PodMesh.Proofs.Cells

/-!
# Matrices in order

A matrix starts complete in its expectations and empty in its observations, both tables over
the keys of one list of pods. Every operation keeps it so: `Built` is what the operations can
make of a matrix, `Sound` is what that leaves true, and `Built.sound` ties the two. In a
sound matrix no pod of the list is unknown and no expectation is missing, so nothing that is
asked about its own pods can fail.
-/

namespace PodMesh.Matrix

/-- The keys of the pods, in order. -/
def keys (m : Matrix) : List String := m.pods.map Identity.text

/-- What the operations on matrices can make of a new one. -/
inductive Built : Matrix → Prop where
  | make {pods : List Identity} {default : Bool} {m : Matrix} :
      Matrix.make pods default = .ok m → Built m
  | expect {m m' : Matrix} {source target : Identity} {connected : Bool} :
      Built m → m.expect source target connected = .ok m' → Built m'
  | expectPeers {m m' : Matrix} {source target : Peer} {connected : Bool} {pairs : Nat} :
      Built m → m.expectPeers source target connected = .ok (m', pairs) → Built m'
  | observe {m m' : Matrix} {source target : Identity} {connected : Bool} :
      Built m → m.observe source target connected = .ok m' → Built m'
  | observeRate {m m' : Matrix} {source target : Identity} {rate : Rate} :
      Built m → m.observeRate source target rate = .ok m' → Built m'

/-- Both tables are over the pods, and no expectation is missing. -/
structure Sound (m : Matrix) : Prop where
  /-- Expectations are from every pod. -/
  expected_sources : m.expected.sources = m.keys
  /-- Expectations are to every pod. -/
  expected_targets : m.expected.targets = m.keys
  /-- Observations are from every pod. -/
  observed_sources : m.observed.sources = m.keys
  /-- Observations are to every pod. -/
  observed_targets : m.observed.targets = m.keys
  /-- Something is expected of every pair. -/
  complete : m.expected.isComplete = true

variable {m m' : Matrix} {source target : Identity}

/-! ## Soundness is kept -/

/-- A new table over one list of keys has the default in every cell and no rates. -/
theorem square_eq_ok {ks : List String} {default : Option Bool} {t : Table}
    (h : Table.square ks default = .ok t) :
    t.sources = ks ∧ t.targets = ks ∧ (∀ v ∈ t.values, v = default) ∧ ∀ r ∈ t.rates, r = none :=
  Table.make_eq_ok h

/-- What a new matrix is made of. -/
theorem make_eq_ok {pods : List Identity} {default : Bool} (h : make pods default = .ok m) :
    m.pods = pods ∧ Table.square m.keys (some default) = .ok m.expected ∧
      Table.square m.keys none = .ok m.observed := by
  obtain ⟨expected, he, h⟩ := bind_eq_ok.mp h
  obtain ⟨observed, ho, h⟩ := bind_eq_ok.mp h
  injection h with h
  subst h
  exact ⟨rfl, he, ho⟩

/-- A table can be made over keys that are all different. -/
theorem exists_square {ks : List String} (h : ks.Nodup) (default : Option Bool) :
    ∃ t, Table.square ks default = .ok t :=
  Table.exists_make h h default

/-- A matrix can be made over pods that are all printed differently. -/
theorem exists_make {pods : List Identity} (h : (pods.map Identity.text).Nodup) (default : Bool) :
    ∃ m, make pods default = .ok m := by
  obtain ⟨expected, he⟩ := exists_square h (some default)
  obtain ⟨observed, ho⟩ := exists_square h none
  exact ⟨_, by rw [make, he, ho]; rfl⟩

theorem sound_make {pods : List Identity} {default : Bool} (h : make pods default = .ok m) :
    Sound m := by
  obtain ⟨_, he, ho⟩ := make_eq_ok h
  obtain ⟨hes, het, hev, _⟩ := square_eq_ok he
  obtain ⟨hos, hot, _⟩ := square_eq_ok ho
  refine ⟨hes, het, hos, hot, Table.isComplete_iff.mpr fun v hv => ?_⟩
  rw [hev v hv]
  rfl

/-- Setting an expectation touches neither the pods nor the observations. -/
theorem expect_eq_ok {connected : Bool} (h : m.expect source target connected = .ok m') :
    ∃ t, m.expected.set source.text target.text connected = .ok t ∧
      { m with expected := t } = m' := by
  obtain ⟨t, ht, h⟩ := bind_eq_ok.mp h
  exact ⟨t, ht, Except.ok.inj h⟩

/-- Recording a connection touches neither the pods nor the expectations. -/
theorem observe_eq_ok {connected : Bool} (h : m.observe source target connected = .ok m') :
    ∃ t, m.observed.set source.text target.text connected = .ok t ∧
      { m with observed := t } = m' := by
  obtain ⟨t, ht, h⟩ := bind_eq_ok.mp h
  exact ⟨t, ht, Except.ok.inj h⟩

/-- Recording a rate touches neither the pods nor the expectations. -/
theorem observeRate_eq_ok {rate : Rate} (h : m.observeRate source target rate = .ok m') :
    ∃ t, m.observed.setRate source.text target.text rate = .ok t ∧
      { m with observed := t } = m' := by
  obtain ⟨t, ht, h⟩ := bind_eq_ok.mp h
  exact ⟨t, ht, Except.ok.inj h⟩

theorem observe_same {connected : Bool} (h : m.observe source target connected = .ok m') :
    m'.pods = m.pods ∧ m'.expected = m.expected := by
  obtain ⟨t, _, rfl⟩ := observe_eq_ok h
  exact ⟨rfl, rfl⟩

theorem observeRate_same {rate : Rate} (h : m.observeRate source target rate = .ok m') :
    m'.pods = m.pods ∧ m'.expected = m.expected := by
  obtain ⟨t, _, rfl⟩ := observeRate_eq_ok h
  exact ⟨rfl, rfl⟩

theorem sound_expect {connected : Bool} (hs : Sound m)
    (h : m.expect source target connected = .ok m') : Sound m' := by
  obtain ⟨t, ht, rfl⟩ := expect_eq_ok h
  obtain ⟨hks, hkt⟩ := Table.set_sameKeys ht
  exact ⟨hks.trans hs.expected_sources, hkt.trans hs.expected_targets, hs.observed_sources,
    hs.observed_targets, Table.isComplete_set ht hs.complete⟩

theorem sound_observe {connected : Bool} (hs : Sound m)
    (h : m.observe source target connected = .ok m') : Sound m' := by
  obtain ⟨t, ht, rfl⟩ := observe_eq_ok h
  obtain ⟨hks, hkt⟩ := Table.set_sameKeys ht
  exact ⟨hs.expected_sources, hs.expected_targets, hks.trans hs.observed_sources,
    hkt.trans hs.observed_targets, hs.complete⟩

theorem sound_observeRate {rate : Rate} (hs : Sound m)
    (h : m.observeRate source target rate = .ok m') : Sound m' := by
  obtain ⟨t, ht, rfl⟩ := observeRate_eq_ok h
  obtain ⟨hks, hkt⟩ := Table.setRate_sameKeys ht
  exact ⟨hs.expected_sources, hs.expected_targets, hks.trans hs.observed_sources,
    hkt.trans hs.observed_targets, hs.complete⟩

/-- Setting many expectations keeps what setting one keeps. -/
theorem expectPairs_preserves {connected : Bool} (Kept : Matrix → Prop)
    (hexpect : ∀ {m m' : Matrix} {p q : Identity},
      m.expect p q connected = .ok m' → Kept m → Kept m') :
    ∀ (pairs : List (Identity × Identity)) {m m' : Matrix},
      pairs.foldlM (fun (m : Matrix) (p, q) => m.expect p q connected) m = .ok m' →
      Kept m → Kept m'
  | [], m, m', h, hm => by
      injection h with h
      exact h ▸ hm
  | (p, q) :: pairs, m, m', h, hm => by
      rw [List.foldlM_cons] at h
      obtain ⟨m₁, h₁, h⟩ := bind_eq_ok.mp h
      exact expectPairs_preserves Kept hexpect pairs h (hexpect h₁ hm)

/-- What setting one expectation keeps, setting those of all pairs that two peers cover does. -/
theorem expectPeers_preserves {connected : Bool} (Kept : Matrix → Prop)
    (hexpect : ∀ {m m' : Matrix} {p q : Identity},
      m.expect p q connected = .ok m' → Kept m → Kept m') {s t : Peer} {n : Nat}
    (h : m.expectPeers s t connected = .ok (m', n)) (hm : Kept m) : Kept m' := by
  obtain ⟨m₁, h₁, h⟩ := bind_eq_ok.mp h
  injection h with h
  injection h with h
  exact h ▸ expectPairs_preserves Kept hexpect _ h₁ hm

theorem sound_expectPeers {s t : Peer} {connected : Bool} {n : Nat} (hs : Sound m)
    (h : m.expectPeers s t connected = .ok (m', n)) : Sound m' :=
  expectPeers_preserves Sound (fun h hs => sound_expect hs h) h hs

/-- **Every matrix that was built is sound.** -/
theorem Built.sound (h : Built m) : Sound m := by
  induction h with
  | make h => exact sound_make h
  | expect _ h ih => exact sound_expect ih h
  | expectPeers _ h ih => exact sound_expectPeers ih h
  | observe _ h ih => exact sound_observe ih h
  | observeRate _ h ih => exact sound_observeRate ih h

/-! ## What soundness gives -/

theorem mem_keys (h : source ∈ m.pods) : source.text ∈ m.keys :=
  List.mem_map_of_mem h

/-- The printed identities of a sound matrix are all different. -/
theorem Sound.keys_nodup (hs : Sound m) : m.keys.Nodup :=
  hs.observed_sources ▸ m.observed.sources_nodup

/-- Something is expected of every pair of its pods. -/
theorem Sound.exists_expectation (hs : Sound m) (h : source ∈ m.pods) (h' : target ∈ m.pods) :
    ∃ v, m.expectation source target = .ok v :=
  Table.exists_get hs.complete (hs.expected_sources ▸ mem_keys h)
    (hs.expected_targets ▸ mem_keys h')

theorem Sound.exists_observe (hs : Sound m) (h : source ∈ m.pods) (h' : target ∈ m.pods)
    (connected : Bool) : ∃ m', m.observe source target connected = .ok m' := by
  obtain ⟨t, ht⟩ := Table.exists_set (t := m.observed) (hs.observed_sources ▸ mem_keys h)
    (hs.observed_targets ▸ mem_keys h') connected
  exact ⟨_, by rw [observe, ht]; rfl⟩

theorem Sound.exists_observeRate (hs : Sound m) (h : source ∈ m.pods) (h' : target ∈ m.pods)
    (rate : Rate) : ∃ m', m.observeRate source target rate = .ok m' := by
  obtain ⟨t, ht⟩ := Table.exists_setRate (t := m.observed) (hs.observed_sources ▸ mem_keys h)
    (hs.observed_targets ▸ mem_keys h') rate
  exact ⟨_, by rw [observeRate, ht]; rfl⟩

end PodMesh.Matrix
