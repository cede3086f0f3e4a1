import PodMesh.Proofs.Pass.Exactness
import PodMesh.Proofs.Tally

/-!
# Whole passes

With a prober that kills nobody every pass is whole: it comes to its end, and each pair of pods
has its one outcome. What such a pass observed takes the place of whatever was observed
before, so the pairs that are wrong after it are those whose outcome in this very pass missed
what was expected (`Whole.wrong_perm`). The matrix it leaves is again one that operations can
make (`Whole.built`), and so another pass can follow.
-/

namespace PodMesh

namespace Matrix

variable {m m' : Matrix} {o : Outcome} {ignoreLoopback : Bool} {os os' : List Outcome}

/-- The outcomes of pairs that count which are not as expected. -/
def misses (m : Matrix) (ignoreLoopback : Bool) (os : List Outcome) : List Outcome :=
  os.filter fun o => counts ignoreLoopback o.job.pair && some o.connected ≠ m.expected? o.job.pair

/-- An outcome is among those that missed if its pair counts and something else was expected. -/
theorem mem_misses {o : Outcome} : o ∈ m.misses ignoreLoopback os ↔ o ∈ os ∧
    (ignoreLoopback = true → o.job.source.id ≠ o.job.target.id) ∧
    m.expectation o.job.source.id o.job.target.id ≠ .ok o.connected := by
  rw [misses, List.mem_filter, Bool.and_eq_true, decide_eq_true_iff, counts_iff]
  refine and_congr_right fun _ => and_congr_right fun _ => not_congr ?_
  exact eq_comm.trans expectation_eq_ok_iff.symm

theorem length_misses_eq_zero_iff : (m.misses ignoreLoopback os).length = 0 ↔ ∀ o ∈ os,
    (ignoreLoopback = true → o.job.source.id ≠ o.job.target.id) →
    m.expectation o.job.source.id o.job.target.id = .ok o.connected := by
  rw [List.length_eq_zero_iff, List.eq_nil_iff_forall_not_mem]
  simp only [mem_misses, not_and, Classical.not_not]

theorem length_misses_of_perm (h : os.Perm os') :
    (m.misses ignoreLoopback os).length = (m.misses ignoreLoopback os').length :=
  (h.filter _).length_eq

/-- An outcome is recorded by operations on the matrix. -/
theorem Built.record {notices : List Notice} (hb : m.Built)
    (h : o.record m = .ok (m', notices)) : m'.Built := by
  rcases record_cases h with ⟨_, h₁⟩ | ⟨r, m₁, _, h₁, h₂⟩
  · exact hb.observe h₁
  · exact (hb.observe h₁).observeRate h₂

/-- What of an outcome that is refused was entered, was entered by operations, too. -/
theorem Built.refusal {refusal : Refusal} (hb : m.Built) (h : o.record m = .error refusal) :
    refusal.matrix.Built := by
  rcases refusal_cases h with heq | ⟨m₁, h₁, heq | ⟨r, h₂⟩⟩
  · exact heq ▸ hb
  · exact heq ▸ hb.observe h₁
  · exact (hb.observe h₁).observeRate h₂

end Matrix

namespace Pass

variable {σ : Type} {cluster : Cluster} {plan : Plan} {matrix : Matrix} {world : World σ}
  {events : List Event} {after : After σ Unit} {prober : Prober σ} {pool : Pool σ}
  {size : Nat} {s s' : State σ}

/-! ## The matrix after a pass -/

theorem built_move {new : List Event} (hb : s.matrix.Built) (hm : Move prober size s new s') :
    s'.matrix.Built := by
  cases hm with
  | enter _ _ _ hrec => exact hb.record hrec
  | refuse _ _ _ hrec => exact hb.refusal hrec
  | send _ _ _ _ | giveUp _ _ _ | close _ _ | complete _ | fallShort _ _ _ _
  | join _ _ | take _ _ | leave _ _ _ | settle _ _ | ask _ _ _ | die _ _ _ | deliver _ _ _
  | discard _ _ => exact hb

/-- **A pass over a built matrix leaves a built matrix, however it ends.** -/
theorem built_run {first : State σ} (hb : first.matrix.Built)
    (h : Run prober size first events s) : s.matrix.Built := by
  induction h with
  | start => exact hb
  | step _ hs ih => exact built_move ih (step_move hs)

theorem Ends.built (hb : matrix.Built) (h : Ends pool cluster plan matrix world events after) :
    after.matrix.Built := by
  obtain ⟨last, hrun, _, hmatrix, _⟩ := h
  exact hmatrix ▸ built_run hb hrun

/-! ## Passes without losses -/

/-- A pass that came to its end with one outcome for each pair. -/
structure Whole (pool : Pool σ) (cluster : Cluster) (plan : Plan) (matrix : Matrix)
    (world : World σ) (events : List Event) (after : After σ Unit) : Prop where
  /-- It is the pool's pass, under its schedule. -/
  pass : pool.pass cluster plan matrix world = after
  /-- This is what its threads did. -/
  ends : Ends pool cluster plan matrix world events after
  /-- It succeeded. -/
  ok : after.result = .ok ()
  /-- Each pair has its outcome, from its own question. -/
  exact : Exact pool.prober cluster plan matrix world events after

/-- **A prober that kills nobody makes every pass whole.** -/
theorem exists_whole (pool : Pool σ) (plan : Plan) (world : World σ) (hcrew : 0 < pool.workers)
    (hp : pool.prober.Survivable) (hb : matrix.Built) (hids : cluster.ids = matrix.pods) :
    ∃ events, Whole pool cluster plan matrix world events
      (pool.pass cluster plan matrix world) := by
  obtain ⟨events, hends⟩ := pass_ends pool plan world hids
  have hacc := hends.account hcrew hb hids
  obtain ⟨hok, hexact⟩ := hacc.exact hcrew hb hids (losses_eq_nil hp hacc.told)
  exact ⟨events, rfl, hends, hok, hexact⟩

namespace Whole

variable (h : Whole pool cluster plan matrix world events after)

include h

theorem eq_ok : after = ⟨.ok (), after.matrix, after.world⟩ := by
  rw [← h.ok]

theorem built (hb : matrix.Built) : after.matrix.Built := h.ends.built hb

theorem pods_eq : after.matrix.pods = matrix.pods := h.exact.holds.pods

theorem expected_eq : after.matrix.expected = matrix.expected := h.exact.holds.expected

/-- Outcomes are of pairs of the cluster. -/
theorem pair_mem {o : Outcome} (ho : o ∈ recorded events) : o.job.pair ∈ cluster.pairs :=
  h.exact.recorded_pairs.mem_iff.mp (List.mem_map_of_mem ho)

/-- Every pair has an outcome, and shows it. -/
theorem exists_outcome {pair : Identity × Identity} (hpair : pair ∈ cluster.pairs) :
    ∃ o ∈ recorded events, o.job.pair = pair ∧
      after.matrix.observed.value pair.1.text pair.2.text = .ok (some o.connected) := by
  obtain ⟨o, ho, rfl⟩ := List.mem_map.mp (h.exact.recorded_pairs.mem_iff.mpr hpair)
  exact ⟨o, ho, rfl, h.exact.holds.value o ho⟩

theorem observed?_eq {o : Outcome} (ho : o ∈ recorded events) :
    after.matrix.observed? o.job.pair = some o.connected :=
  Table.entry_of_value (h.exact.holds.value o ho)

/-- **What is wrong after a whole pass are the pairs whose outcome in it missed.** -/
theorem wrong_perm (hids : cluster.ids = matrix.pods) (ignoreLoopback : Bool) :
    (after.matrix.wrong ignoreLoopback).Perm
      ((matrix.misses ignoreLoopback (recorded events)).map (·.job.pair)) := by
  have hpairs : after.matrix.pairs = cluster.pairs := by
    rw [Matrix.pairs, h.pods_eq, ← hids]
    rfl
  have hexp : ∀ pair, after.matrix.expected? pair = matrix.expected? pair := fun pair => by
    rw [Matrix.expected?, h.expected_eq, Matrix.expected?]
  have hmisses : (matrix.misses ignoreLoopback (recorded events)).map (·.job.pair) =
      ((recorded events).map (·.job.pair)).filter fun pair =>
        Matrix.counts ignoreLoopback pair &&
          after.matrix.observed? pair ≠ after.matrix.expected? pair := by
    rw [List.filter_map, Matrix.misses]
    refine congrArg _ (List.filter_congr fun o ho => ?_)
    simp only [Function.comp_apply, h.observed?_eq ho, hexp]
  rw [hmisses, Matrix.wrong, hpairs]
  exact (h.exact.recorded_pairs.filter _).symm

theorem length_wrong (hids : cluster.ids = matrix.pods) (ignoreLoopback : Bool) :
    (after.matrix.wrong ignoreLoopback).length =
      (matrix.misses ignoreLoopback (recorded events)).length := by
  rw [(h.wrong_perm hids ignoreLoopback).length_eq, List.length_map]

omit h

/-- What was asked until the end of a pass is what was asked before, and then what its threads
asked. -/
theorem askedSince_eq {w w₀ : World σ} {notices : List Notice}
    (h : Whole pool cluster plan matrix (w.say notices) events after)
    (hw : w₀.journal <+: w.journal) : w₀.journal <+: after.world.journal ∧
      after.world.askedSince w₀ = w.askedSince w₀ ++ targets events := by
  have hsaid := hw.trans (w.journal_say notices)
  refine ⟨hsaid.trans h.exact.told.grown, ?_⟩
  rw [World.askedSince_trans hsaid h.exact.told.grown, World.askedSince_say hw]
  exact congrArg _ h.exact.told.asked

end Whole

/-- A prober that fails as often as it remembers to, and then reaches everything. -/
def flaky : Prober Nat where
  ask := fun failures _ => (.reading { connected := failures = 0 } [], failures - 1)

end Pass

end PodMesh
