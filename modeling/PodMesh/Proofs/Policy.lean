import PodMesh.Inquiry
import PodMesh.Proofs.Tally

/-!
# What a policy expects

Rules are applied one after another, and a later rule overwrites what the earlier ones set for
its pairs. All rules that allow come first and all that deny come after them, so who wins can
be told without any order: a pair that some rule denies is not expected to connect, of the
others those that some rule allows are, and the rest is as the default says
(`Policy.expects`). The matrix made for a policy expects just that (`exists_ofPolicy`).
-/

namespace PodMesh

/-- Is a rule about a pair? -/
def Rule.covers (r : Rule) (pair : Identity × Identity) : Bool :=
  r.source.covers pair.1 && r.target.covers pair.2

/-- What a policy expects of a pair. -/
def Policy.expects (policy : Policy) (pair : Identity × Identity) : Bool :=
  if policy.deny.any (·.covers pair) then false
  else if policy.allow.any (·.covers pair) then true
  else policy.default

/-- The order of the rules on either side does not matter. -/
theorem Policy.expects_perm {policy : Policy} {allow deny : List Rule}
    (hallow : allow.Perm policy.allow) (hdeny : deny.Perm policy.deny) :
    Policy.expects { policy with allow, deny } = policy.expects := by
  funext pair
  unfold Policy.expects
  rw [hallow.any_eq, hdeny.any_eq]

theorem Table.entry_set {t t' : Table} {source target p q : String} {v : Bool}
    (h : t.set source target v = .ok t') :
    t'.entry p q = if p = source ∧ q = target then some v else t.entry p q := by
  unfold entry
  rw [value_set h]
  split
  · rfl
  · rfl

namespace Matrix

variable {m m' : Matrix} {source target : Identity} {pair : Identity × Identity}
  {pairs : List (Identity × Identity)} {connected : Bool}

/-! ## One expectation -/

theorem expect_same (h : m.expect source target connected = .ok m') :
    m'.pods = m.pods ∧ m'.observed = m.observed := by
  obtain ⟨t, _, rfl⟩ := expect_eq_ok h
  exact ⟨rfl, rfl⟩

theorem Sound.exists_expect (hs : m.Sound) (h : source ∈ m.pods) (h' : target ∈ m.pods)
    (connected : Bool) : ∃ m', m.expect source target connected = .ok m' := by
  obtain ⟨t, ht⟩ := Table.exists_set (t := m.expected) (hs.expected_sources ▸ mem_keys h)
    (hs.expected_targets ▸ mem_keys h') connected
  exact ⟨_, by rw [expect, ht]; rfl⟩

/-- Setting an expectation changes that of its own pair only. -/
theorem Sound.expected?_expect (hs : m.Sound) (hm : (source, target) ∈ m.pairs)
    (h : m.expect source target connected = .ok m') (hpair : pair ∈ m.pairs) :
    m'.expected? pair =
      if pair = (source, target) then some connected else m.expected? pair := by
  obtain ⟨t, ht, rfl⟩ := expect_eq_ok h
  obtain ⟨hsource, htarget⟩ := mem_pairs.mp hm
  obtain ⟨hp, hq⟩ := mem_pairs.mp hpair
  have hkeys : (pair.1.text = source.text ∧ pair.2.text = target.text) ↔
      pair = (source, target) := by
    rw [hs.text_inj hp hsource, hs.text_inj hq htarget, Prod.ext_iff]
  unfold expected?
  rw [Table.entry_set ht]
  simp only [hkeys]

/-! ## Many expectations -/

theorem expectPairs_same
    (h : pairs.foldlM (fun (m : Matrix) (p, q) => m.expect p q connected) m = .ok m') :
    m'.pods = m.pods ∧ m'.observed = m.observed := by
  refine expectPairs_preserves (fun m₁ => m₁.pods = m.pods ∧ m₁.observed = m.observed)
    (fun h₁ hkept => ?_) pairs h ⟨rfl, rfl⟩
  obtain ⟨hpods, hobs⟩ := expect_same h₁
  exact ⟨hpods.trans hkept.1, hobs.trans hkept.2⟩

/-- No pair of a sound matrix is refused. -/
theorem Sound.exists_expectPairs (connected : Bool) :
    ∀ (pairs : List (Identity × Identity)) {m : Matrix}, m.Sound →
      (∀ pair ∈ pairs, pair ∈ m.pairs) →
      ∃ m', pairs.foldlM (fun (m : Matrix) (p, q) => m.expect p q connected) m = .ok m'
  | [], m, _, _ => ⟨m, rfl⟩
  | (p, q) :: pairs, m, hs, hsub => by
      obtain ⟨hp, hq⟩ := mem_pairs.mp (hsub (p, q) List.mem_cons_self)
      obtain ⟨m₁, h₁⟩ := hs.exists_expect hp hq connected
      have hsub₁ : ∀ pair ∈ pairs, pair ∈ m₁.pairs := by
        intro pair hpair
        rw [Matrix.pairs, (expect_same h₁).1]
        exact hsub pair (List.mem_cons_of_mem _ hpair)
      obtain ⟨m', h'⟩ := Sound.exists_expectPairs connected pairs (sound_expect hs h₁) hsub₁
      refine ⟨m', ?_⟩
      rw [List.foldlM_cons]
      exact bind_eq_ok.mpr ⟨m₁, h₁, h'⟩

/-- Of a list of pairs the same is expected, and of the others what was before. -/
theorem Sound.expected?_expectPairs :
    ∀ (pairs : List (Identity × Identity)) {m m' : Matrix}, m.Sound →
      (∀ pair ∈ pairs, pair ∈ m.pairs) →
      pairs.foldlM (fun (m : Matrix) (p, q) => m.expect p q connected) m = .ok m' →
      pair ∈ m.pairs →
      m'.expected? pair = if pair ∈ pairs then some connected else m.expected? pair
  | [], m, m', _, _, h, _ => by
      injection h with h
      rw [h, if_neg List.not_mem_nil]
  | (p, q) :: pairs, m, m', hs, hsub, h, hpair => by
      rw [List.foldlM_cons] at h
      obtain ⟨m₁, h₁, h⟩ := bind_eq_ok.mp h
      have hpairs₁ : m₁.pairs = m.pairs := by rw [Matrix.pairs, (expect_same h₁).1, Matrix.pairs]
      have hrest := Sound.expected?_expectPairs pairs (sound_expect hs h₁)
        (fun pair hmem => hpairs₁ ▸ hsub pair (List.mem_cons_of_mem _ hmem)) h (hpairs₁ ▸ hpair)
      rw [hrest, hs.expected?_expect (hsub (p, q) List.mem_cons_self) h₁ hpair]
      -- the first pair was set before the others, to the same value
      by_cases hmem : pair ∈ pairs
      · simp [hmem]
      · simp [hmem]

theorem mem_covered {s t : Peer} :
    pair ∈ m.covered s t ↔ pair ∈ m.pairs ∧ s.covers pair.1 = true ∧ t.covers pair.2 = true := by
  have hprod : m.covered s t = m.pods.filter s.covers ×ˢ m.pods.filter t.covers := rfl
  rw [hprod, List.mem_product, List.mem_filter, List.mem_filter, mem_pairs]
  exact and_and_and_comm

/-! ## Rules and policies -/

/-- **The expectation of all pairs that two peers cover can be set at once.** -/
theorem Built.exists_expectPeers (hb : m.Built) (s t : Peer) (connected : Bool) :
    ∃ m' n, m.expectPeers s t connected = .ok (m', n) ∧ m'.Built ∧ m'.pods = m.pods ∧
      m'.observed = m.observed ∧ ∀ pair ∈ m.pairs, m'.expected? pair =
        if Rule.covers ⟨s, t⟩ pair then some connected else m.expected? pair := by
  have hs := hb.sound
  have hsub : ∀ pair ∈ m.covered s t, pair ∈ m.pairs := fun _ h => (mem_covered.mp h).1
  obtain ⟨m', h⟩ := hs.exists_expectPairs connected _ hsub
  have hpeers : m.expectPeers s t connected = .ok (m', (m.covered s t).length) :=
    bind_eq_ok.mpr ⟨m', h, rfl⟩
  obtain ⟨hpods, hobs⟩ := expectPairs_same h
  refine ⟨m', _, hpeers, hb.expectPeers hpeers, hpods, hobs, fun pair hpair => ?_⟩
  have hcovers : pair ∈ m.covered s t ↔ Rule.covers ⟨s, t⟩ pair = true := by
    rw [mem_covered, Rule.covers, Bool.and_eq_true]
    exact and_iff_right hpair
  rw [hs.expected?_expectPairs _ hsub h hpair]
  simp only [hcovers]

/-- **Rules of one kind can be applied, and decide the pairs that one of them covers.** -/
theorem Built.exists_applyRules (allow : Bool) :
    ∀ (rules : List Rule) {m : Matrix}, m.Built →
      ∃ m' notices, m.applyRules allow rules = .ok (m', notices) ∧ m'.Built ∧
        m'.pods = m.pods ∧ ∀ pair ∈ m.pairs, m'.expected? pair =
          if rules.any (·.covers pair) then some allow else m.expected? pair
  | [], m, hb => ⟨m, [], rfl, hb, rfl, fun _ _ => rfl⟩
  | rule :: rest, m, hb => by
      obtain ⟨m₁, n, h₁, hb₁, hpods₁, _, hexp₁⟩ :=
        hb.exists_expectPeers rule.source rule.target allow
      obtain ⟨m', notices, h', hb', hpods, hexp⟩ := Built.exists_applyRules allow rest hb₁
      have hpairs₁ : m₁.pairs = m.pairs := by rw [Matrix.pairs, hpods₁, Matrix.pairs]
      refine ⟨m', .rule allow rule.source rule.target n :: notices, ?_, hb',
        hpods.trans hpods₁, fun pair hpair => ?_⟩
      · exact bind_eq_ok.mpr ⟨(m₁, n), h₁, bind_eq_ok.mpr ⟨(m', notices), h', rfl⟩⟩
      · rw [hexp pair (hpairs₁ ▸ hpair), hexp₁ pair hpair, List.any_cons]
        -- whichever of the rules covers the pair, it says the same
        cases rest.any (·.covers pair) with
        | true => simp
        | false => simp

/-- **A matrix can be made for a policy, and expects what the policy does.** -/
theorem exists_ofPolicy {pods : List Identity} (h : (pods.map Identity.text).Nodup)
    (policy : Policy) : ∃ m notices, ofPolicy pods policy = .ok (m, notices) ∧ m.Built ∧
      m.pods = pods ∧ ∀ pair ∈ pods ×ˢ pods,
        m.expectation pair.1 pair.2 = .ok (policy.expects pair) := by
  obtain ⟨m₀, h₀⟩ := exists_make h policy.default
  have hpods₀ := (make_eq_ok h₀).1
  obtain ⟨m₁, allowed, h₁, hb₁, hpods₁, hexp₁⟩ :=
    Built.exists_applyRules true policy.allow (.make h₀)
  obtain ⟨m₂, denied, h₂, hb₂, hpods₂, hexp₂⟩ := Built.exists_applyRules false policy.deny hb₁
  refine ⟨m₂, allowed ++ denied, ?_, hb₂, hpods₂.trans (hpods₁.trans hpods₀),
    fun pair hpair => ?_⟩
  · exact bind_eq_ok.mpr ⟨m₀, h₀, bind_eq_ok.mpr ⟨_, h₁, bind_eq_ok.mpr ⟨_, h₂, rfl⟩⟩⟩
  have hpair₀ : pair ∈ m₀.pairs := by rw [pairs, hpods₀]; exact hpair
  have hpair₁ : pair ∈ m₁.pairs := by rw [pairs, hpods₁]; exact hpair₀
  rw [expectation_eq_ok_iff, hexp₂ pair hpair₁, hexp₁ pair hpair₀, expected?_make h₀ hpair₀,
    Policy.expects]
  cases policy.deny.any (·.covers pair) with
  | true => rfl
  | false => cases policy.allow.any (·.covers pair) <;> rfl

end Matrix

end PodMesh
