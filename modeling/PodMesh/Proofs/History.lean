import PodMesh.Proofs.Policy
import PodMesh.Proofs.Validation

/-!
# The life of a matrix

A matrix is made over some pods, and from then on it is only reached through the calls of its
operations, passes and validations among them. No call brings its tables out of order, and none
takes back that something was observed (`Call.keeps`). So whatever was called before, a matrix can
be counted, every expectation of its own pods is there, and a pass over its pods can fall short
only because workers were lost (`Orderly`).
-/

namespace PodMesh

namespace Matrix

open Pass

variable {m m' m'' : Matrix}

/-! ## What is never taken back -/

/-- What no call takes from a matrix: its pods, and that something was observed of a pair. -/
structure Retains (m m' : Matrix) : Prop where
  pods_eq : m'.pods = m.pods
  observed : ∀ p q, (m.observed.entry p q).isSome → (m'.observed.entry p q).isSome

theorem Retains.refl (m : Matrix) : m.Retains m := ⟨rfl, fun _ _ h => h⟩

theorem Retains.trans (h : m.Retains m') (h' : m'.Retains m'') : m.Retains m'' :=
  ⟨h'.pods_eq.trans h.pods_eq, fun p q hsome => h'.observed p q (h.observed p q hsome)⟩

theorem Retains.of_observed_eq (hpods : m'.pods = m.pods) (h : m'.observed = m.observed) :
    m.Retains m' :=
  ⟨hpods, fun _ _ hsome => h ▸ hsome⟩

theorem retains_observe {source target : Identity} {connected : Bool}
    (h : m.observe source target connected = .ok m') : m.Retains m' := by
  obtain ⟨t, ht, rfl⟩ := observe_eq_ok h
  refine ⟨rfl, fun p q hsome => ?_⟩
  rw [Table.entry_set ht]
  split
  · rfl
  · exact hsome

theorem retains_observeRate {source target : Identity} {rate : Rate}
    (h : m.observeRate source target rate = .ok m') : m.Retains m' := by
  obtain ⟨t, ht, rfl⟩ := observeRate_eq_ok h
  refine ⟨rfl, fun p q hsome => ?_⟩
  rwa [Table.entry, Table.value_setRate ht]

/-- Entering outcomes fills cells and empties none. -/
theorem Holds.retains {os : List Outcome} (h : m.Holds os m') : m.Retains m' := by
  refine ⟨h.pods, fun p q hsome => ?_⟩
  by_cases hpq : (p, q) ∈ os.map (·.job.keys)
  · obtain ⟨o, ho, hkeys⟩ := List.mem_map.mp hpq
    have hentry := Table.entry_of_value (h.value o ho)
    rw [hkeys] at hentry
    rw [hentry]
    rfl
  · rwa [Table.entry, h.other_value p q hpq]

end Matrix

namespace Pool

open Pass

variable {σ : Type} {pool : Pool σ} {matrix : Matrix}

/-! ## Passes and validations -/

/-- **A pass leaves a built matrix, and takes nothing back, however it ends.** -/
theorem pass_keeps (hcrew : 0 < pool.workers) (cluster : Cluster) (plan : Plan) (world : World σ)
    (hb : matrix.Built) : (pool.pass cluster plan matrix world).matrix.Built ∧
      matrix.Retains (pool.pass cluster plan matrix world).matrix := by
  by_cases hids : cluster.ids = matrix.pods
  · obtain ⟨events, hends⟩ := pass_ends pool plan world hids
    exact ⟨hends.built hb, (hends.account hcrew hb hids).holds.retains⟩
  · rw [pass, if_neg hids]
    exact ⟨hb, .refl matrix⟩

theorem verdict_matrix (plan : Plan) (matrix : Matrix) (world : World σ) :
    (verdict plan matrix world).matrix = matrix := by
  unfold verdict
  split
  · rfl
  · rfl

/-- What every pass keeps, a validation does. -/
theorem validate_preserves {Kept : Matrix → Prop} {cluster : Cluster} {plan : Plan}
    (hpass : ∀ matrix world, Kept matrix → Kept (pool.pass cluster plan matrix world).matrix)
    (world : World σ) (hm : Kept matrix) :
    Kept (pool.validate cluster plan matrix world).matrix := by
  have hfirst := hpass matrix (world.say [.firstTry]) hm
  rw [validate]
  -- A fault ends the validation with the matrix that there is by then.
  generalize pool.pass cluster plan matrix (world.say [.firstTry]) = first at hfirst
  obtain ⟨result, matrix₁, world₁⟩ := first
  cases result with
  | error fault => exact hfirst
  | ok _ =>
    dsimp only
    cases matrix₁.tally plan.ignoreLoopback with
    | error fault => exact hfirst
    | ok counted =>
      have hsecond : Kept (pool.retry cluster plan counted.1.incorrect matrix₁
          (world₁.say counted.2)).matrix := by
        unfold retry
        split
        · exact hfirst
        · exact hpass _ _ hfirst
      dsimp only
      generalize pool.retry cluster plan counted.1.incorrect matrix₁ _ = second at hsecond
      obtain ⟨result, matrix₂, world₂⟩ := second
      cases result with
      | error fault => exact hsecond
      | ok _ =>
        dsimp only
        rw [verdict_matrix]
        exact hsecond

theorem validate_keeps (hcrew : 0 < pool.workers) (cluster : Cluster) (plan : Plan)
    (world : World σ) (hb : matrix.Built) :
    (pool.validate cluster plan matrix world).matrix.Built ∧
      matrix.Retains (pool.validate cluster plan matrix world).matrix := by
  have hpass : ∀ (matrix₁ : Matrix) (world₁ : World σ),
      matrix₁.Built ∧ matrix.Retains matrix₁ →
      (pool.pass cluster plan matrix₁ world₁).matrix.Built ∧
        matrix.Retains (pool.pass cluster plan matrix₁ world₁).matrix := by
    rintro matrix₁ world₁ ⟨hb₁, hretains₁⟩
    obtain ⟨hb₂, hretains₂⟩ := pass_keeps hcrew cluster plan world₁ hb₁
    exact ⟨hb₂, hretains₁.trans hretains₂⟩
  exact validate_preserves hpass world ⟨hb, .refl matrix⟩

end Pool

namespace Matrix

open Pass

variable {m m₀ : Matrix} {pods : List Identity} {calls : List Call}

/-! ## Calls -/

/-- A call of an operation. A pass and a validation come with a pool, a cluster and a world of
their own, so nothing ties one to another. -/
inductive Call : Type 1 where
  | expectPeers (source target : Peer) (connected : Bool)
  | expect (source target : Identity) (connected : Bool)
  | observe (source target : Identity) (connected : Bool)
  | observeRate (source target : Identity) (rate : Rate)
  | expectation (source target : Identity)
  | tally (ignoreLoopback : Bool)
  | report (ignoreLoopback : Bool) (grids : Grids)
  | pass {σ : Type} (prober : Prober σ) (workers : Option Nat) (schedule : Nat → Thread)
      (cluster : Cluster) (plan : Plan) (world : World σ)
  | validate {σ : Type} (prober : Prober σ) (workers : Option Nat) (schedule : Nat → Thread)
      (cluster : Cluster) (plan : Plan) (world : World σ)

/-- The matrix that an operation gives. One that is refused leaves the matrix as it was. -/
def given (m : Matrix) : Except Fault Matrix → Matrix
  | .ok m' => m'
  | .error _ => m

/-- The matrix after a call. -/
def called (m : Matrix) : Call → Matrix
  | .expectPeers source target connected =>
    m.given ((m.expectPeers source target connected).map Prod.fst)
  | .expect source target connected => m.given (m.expect source target connected)
  | .observe source target connected => m.given (m.observe source target connected)
  | .observeRate source target rate => m.given (m.observeRate source target rate)
  | .expectation _ _ | .tally _ | .report _ _ => m
  | .pass prober workers schedule cluster plan world =>
    (((Pool.make prober workers).under schedule).pass cluster plan m world).matrix
  | .validate prober workers schedule cluster plan world =>
    (((Pool.make prober workers).under schedule).validate cluster plan m world).matrix

theorem given_keeps {result : Except Fault Matrix} (hb : m.Built)
    (hok : ∀ {m'}, result = .ok m' → m'.Built ∧ m.Retains m') :
    (m.given result).Built ∧ m.Retains (m.given result) := by
  cases result with
  | error fault => exact ⟨hb, .refl m⟩
  | ok m' => exact hok rfl

/-- **No call brings a matrix out of order, or takes anything back.** -/
theorem Call.keeps (call : Call) (hb : m.Built) :
    (m.called call).Built ∧ m.Retains (m.called call) := by
  cases call with
  | expectPeers source target connected =>
    -- The pairs are set one after another, and none is refused on the way.
    obtain ⟨m', n, h, hb', hpods, hobs, _⟩ := hb.exists_expectPeers source target connected
    rw [called, h]
    exact ⟨hb', .of_observed_eq hpods hobs⟩
  | expect source target connected =>
    refine given_keeps hb fun h => ?_
    obtain ⟨hpods, hobs⟩ := expect_same h
    exact ⟨hb.expect h, .of_observed_eq hpods hobs⟩
  | observe source target connected =>
    exact given_keeps hb fun h => ⟨hb.observe h, retains_observe h⟩
  | observeRate source target rate =>
    exact given_keeps hb fun h => ⟨hb.observeRate h, retains_observeRate h⟩
  | expectation _ _ | tally _ | report _ _ => exact ⟨hb, .refl m⟩
  | pass prober workers schedule cluster plan world =>
    have hcrew : 0 < ((Pool.make prober workers).under schedule).workers :=
      make_workers_pos prober workers
    exact Pool.pass_keeps hcrew cluster plan world hb
  | validate prober workers schedule cluster plan world =>
    have hcrew : 0 < ((Pool.make prober workers).under schedule).workers :=
      make_workers_pos prober workers
    exact Pool.validate_keeps hcrew cluster plan world hb

theorem calls_keep (calls : List Call) (hb : m.Built) :
    (calls.foldl called m).Built ∧ m.Retains (calls.foldl called m) := by
  induction calls generalizing m with
  | nil => exact ⟨hb, .refl m⟩
  | cons call rest ih =>
    obtain ⟨hb₁, hretains₁⟩ := call.keeps hb
    obtain ⟨hb', hretains⟩ := ih hb₁
    exact ⟨hb', hretains₁.trans hretains⟩

/-! ## What a matrix in order is good for -/

/-- An expectation is refused only for pods that are not in the matrix. -/
theorem Sound.expectation_error {source target : Identity} {fault : Fault} (hs : m.Sound)
    (h : m.expectation source target = .error fault) :
    fault = .unknownSource source.text ∨ fault = .unknownTarget target.text := by
  by_cases hsource : source.text ∈ m.expected.sources
  · by_cases htarget : target.text ∈ m.expected.targets
    · obtain ⟨v, hv⟩ := Table.exists_get hs.complete hsource htarget
      exact nomatch hv.symm.trans h
    · rw [expectation, Table.get, Table.value,
        Table.cell_of_not_mem_targets hsource htarget] at h
      injection h with h
      exact .inr h.symm
  · rw [expectation, Table.get, Table.value, Table.cell_of_not_mem_sources hsource] at h
    injection h with h
    exact .inl h.symm

/-- What can be relied on in a matrix over some pods. -/
structure Orderly (pods : List Identity) (m : Matrix) : Prop where
  /-- The pods are those it was made over. -/
  pods_eq : m.pods = pods
  /-- Both tables are over them, and something is expected of every pair. -/
  sound : m.Sound
  /-- It can be counted. -/
  tally : ∀ ignoreLoopback, ∃ counted, m.tally ignoreLoopback = .ok counted
  /-- It can be reported, whatever grids are asked for. -/
  report : ∀ ignoreLoopback grids, ∃ reported, m.report ignoreLoopback grids = .ok reported
  /-- No expectation is missing. -/
  expectation : ∀ source target fault, m.expectation source target = .error fault →
    fault = .unknownSource source.text ∨ fault = .unknownTarget target.text
  /-- A pass over the pods can only fall short, or lose all of its workers. -/
  pass : ∀ {σ : Type} (prober : Prober σ) (workers : Option Nat) (schedule : Nat → Thread)
    (cluster : Cluster) (plan : Plan) (world : World σ) (fault : Fault), cluster.ids = pods →
    (((Pool.make prober workers).under schedule).pass cluster plan m world).result =
      .error fault → (∃ got want, fault = .incomplete got want) ∨ fault = .workersGone
  /-- A pass over other pods is refused. It asks nothing and leaves everything as it was. -/
  pass_other : ∀ {σ : Type} (prober : Prober σ) (workers : Option Nat) (schedule : Nat → Thread)
    (cluster : Cluster) (plan : Plan) (world : World σ), cluster.ids ≠ pods →
    ((Pool.make prober workers).under schedule).pass cluster plan m world =
      ⟨.error (.shape (.pods cluster.ids.length pods.length)), m, world⟩

/-- **A matrix that was built is orderly.** -/
theorem Built.orderly (hb : m.Built) : Orderly m.pods m where
  pods_eq := rfl
  sound := hb.sound
  tally := by
    intro ignoreLoopback
    obtain ⟨t, ht, _⟩ := hb.sound.tally_eq ignoreLoopback
    exact ⟨_, ht⟩
  report := by
    intro ignoreLoopback grids
    obtain ⟨t, notices, ht, _⟩ := hb.sound.report_eq ignoreLoopback grids
    exact ⟨_, ht⟩
  expectation := fun _ _ _ h => hb.sound.expectation_error h
  pass := by
    intro σ prober workers schedule cluster plan world fault hids hfault
    obtain ⟨events, hends⟩ :=
      pass_ends ((Pool.make prober workers).under schedule) plan world hids
    -- Of a sound matrix no outcome is refused, so losses alone decide how the pass ends.
    have hended := (hends.account (make_workers_pos prober workers) hb hids).ended
    rw [hfault] at hended
    cases hended with
    | short _ _ _ _ => exact .inl ⟨_, _, rfl⟩
    | abandoned _ _ => exact .inr rfl
  pass_other := fun _ _ _ _ _ _ hids => if_neg hids

/--
**Whatever is called, a matrix stays in order.**

After any calls on a new matrix, refused ones and passes that lose workers among them, both
tables are over its pods, every expectation is there, and it can be counted and reported. A
pass over its pods never fails for what is in the tables, and one over other pods does nothing.
What was observed by then is still observed after any calls that follow.
-/
theorem calls_keep_order {default : Bool} (hmake : make pods default = .ok m₀)
    (calls more : List Call) : Orderly pods (calls.foldl called m₀) ∧
      (calls.foldl called m₀).Retains (more.foldl called (calls.foldl called m₀)) := by
  obtain ⟨hb, hretains⟩ := calls_keep calls (.make hmake)
  have hpods : (calls.foldl called m₀).pods = pods :=
    hretains.pods_eq.trans (make_eq_ok hmake).1
  exact ⟨hpods ▸ hb.orderly, (calls_keep more hb).2⟩

/-- What was observed of two pods outlives a pass that loses its one worker at once. -/
theorem calls_keep_order_on_two_pods :
    let m := [Call.observe ⟨"n", "a"⟩ ⟨"n", "b"⟩ false].foldl called twoPodsMatrix
    let later := [Call.pass Rehearsal.prober (some 1) (fun _ => .main) twoPods {} fatalOnce].foldl
      called m
    Orderly twoPods.ids m ∧ m.observed.entry "n/a" "n/b" = some false ∧
      (later.observed.entry "n/a" "n/b").isSome := by
  have hmake : make twoPods.ids true = .ok twoPodsMatrix := rfl
  obtain ⟨horderly, hretains⟩ := calls_keep_order hmake
    [.observe ⟨"n", "a"⟩ ⟨"n", "b"⟩ false]
    [.pass Rehearsal.prober (some 1) (fun _ => .main) twoPods {} fatalOnce]
  have hentry : ([Call.observe ⟨"n", "a"⟩ ⟨"n", "b"⟩ false].foldl called
      twoPodsMatrix).observed.entry "n/a" "n/b" = some false := rfl
  exact ⟨horderly, hentry, hretains.observed _ _ (hentry ▸ rfl)⟩

end Matrix

end PodMesh
