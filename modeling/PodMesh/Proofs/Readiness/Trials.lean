import PodMesh.Proofs.Pass.Whole
import PodMesh.Proofs.Served

/-!
# Trials of servers

To try a server is to make one whole pass on its port and protocol, over a matrix that was made
for it and expects every pair to connect. A round tries the pending servers in turn, and the
next round those that were not found ready. `Trials` and `Rounds` say which trials these are,
each with what happened in it; `Trials.round_eq` and `Rounds.rounds_eq` say that this is what
is computed. If the prober kills nobody there always are such trials (`exists_rounds`).
-/

namespace PodMesh

open Pass

variable {σ : Type}

/-- One trial of a server: the world it was made in, what happened, and what it left. -/
structure Trial (σ : Type) where
  server : Server
  before : World σ
  events : List Event
  after : After σ Unit

namespace Trial

/-- The number of pairs that are not as expected, a pod with itself included. -/
def failures (t : Trial σ) : Nat := (t.after.matrix.wrong false).length

/-- Was the server found ready? -/
def isClean (t : Trial σ) : Bool := t.failures = 0

/-- What is said about the trial. -/
def verdict (t : Trial σ) : Notice :=
  if t.failures = 0 then .ready t.server.port t.server.protocol
  else .notReady t.server.port t.server.protocol t.failures

/-- The world once this was said. -/
def told (t : Trial σ) : World σ := t.after.world.say [t.verdict]

/-- The servers that trials did not find ready, in order. -/
def waiting (trials : List (Trial σ)) : List Server :=
  (trials.filter fun t => !t.isClean).map Trial.server

/-- Did any trial find a server ready? -/
def foundReady (trials : List (Trial σ)) (server : Server) : Bool :=
  trials.any fun t => t.server = server && t.isClean

variable {t : Trial σ} {trials trials' : List (Trial σ)} {server : Server}

theorem foundReady_iff : foundReady trials server = true ↔
    ∃ t ∈ trials, t.server = server ∧ t.isClean = true := by
  simp [foundReady]

theorem foundReady_append : foundReady (trials ++ trials') server =
    (foundReady trials server || foundReady trials' server) :=
  List.any_append

theorem waiting_cons (t : Trial σ) (trials : List (Trial σ)) : waiting (t :: trials) =
    if t.failures = 0 then waiting trials else t.server :: waiting trials := by
  by_cases hclean : t.failures = 0
  · simp [waiting, isClean, hclean]
  · simp [waiting, isClean, hclean]

/-- Where no server is tried twice, those that wait are the ones that were not found ready. -/
theorem waiting_eq_filter (hn : (trials.map Trial.server).Nodup) :
    waiting trials = (trials.map Trial.server).filter fun s => !foundReady trials s := by
  rw [List.filter_map, waiting]
  refine congrArg _ (List.filter_congr fun t ht => congrArg _ ?_)
  rw [Bool.eq_iff_iff]
  refine Iff.trans ?_ foundReady_iff.symm
  constructor
  · exact fun hclean => ⟨t, ht, rfl, hclean⟩
  · rintro ⟨t', ht', hserver, hclean⟩
    exact List.inj_on_of_nodup_map hn ht' ht hserver ▸ hclean

end Trial

open Trial

variable {pool : Pool σ} {cluster : Cluster} {fresh : Matrix} {w w' w'' w₀ : World σ}
  {trials trials' : List (Trial σ)} {tries more : Nat} {pending left : List Server}
  {rounds : List (List (Trial σ))}

/-! ## Trials in turn -/

/-- Trials in turn, from one world to another. -/
inductive Trials (pool : Pool σ) (cluster : Cluster) (fresh : Matrix) :
    World σ → List (Trial σ) → World σ → Prop where
  | none {w : World σ} : Trials pool cluster fresh w [] w
  | more {t : Trial σ} {trials : List (Trial σ)} {w : World σ} :
      Whole pool cluster t.server.plan fresh t.before t.events t.after →
      Trials pool cluster fresh t.told trials w →
      Trials pool cluster fresh t.before (t :: trials) w

namespace Trials

theorem append (h : Trials pool cluster fresh w trials w')
    (h' : Trials pool cluster fresh w' trials' w'') :
    Trials pool cluster fresh w (trials ++ trials') w'' := by
  induction h with
  | none => exact h'
  | more hwhole _ ih => exact .more hwhole (ih h')

/-- Every trial is a whole pass. -/
theorem whole (h : Trials pool cluster fresh w trials w') : ∀ t ∈ trials,
    Whole pool cluster t.server.plan fresh t.before t.events t.after := by
  induction h with
  | none => exact fun _ ht => nomatch ht
  | more hwhole _ ih =>
    intro t ht
    rcases List.mem_cons.mp ht with rfl | ht
    · exact hwhole
    · exact ih t ht

/-- The prober is asked in trials and at no other time. -/
theorem askedSince_eq (h : Trials pool cluster fresh w trials w')
    (hw : w₀.journal <+: w.journal) : w₀.journal <+: w'.journal ∧
      w'.askedSince w₀ = w.askedSince w₀ ++ trials.flatMap fun t => targets t.events := by
  induction h with
  | none => exact ⟨hw, (List.append_nil _).symm⟩
  | @more t trials _ hwhole _ ih =>
    rw [← World.say_nil t.before] at hwhole
    obtain ⟨hgrown, hasked⟩ := hwhole.askedSince_eq hw
    obtain ⟨hgrown', hasked'⟩ := ih (hgrown.trans (t.after.world.journal_say _))
    refine ⟨hgrown', ?_⟩
    rw [hasked', Trial.told, World.askedSince_say hgrown, hasked, List.append_assoc,
      List.flatMap_cons]

end Trials

/-- A whole pass on a server is what comes of trying it. -/
theorem Pool.trial_eq (hmake : Matrix.make cluster.ids true = .ok fresh) {server : Server}
    {events : List Event} {after : After σ Unit}
    (h : Whole pool cluster server.plan fresh w events after) :
    pool.trial cluster server w = (.ok (after.matrix.wrong false).length, after.world) := by
  obtain ⟨tally, htally, hwrong⟩ := (h.built (.make hmake)).sound.tally_eq false
  have hpass := h.pass
  have hok := h.ok
  obtain ⟨result, matrix, world⟩ := after
  subst hok
  dsimp only at htally hwrong ⊢
  unfold Pool.trial
  rw [hmake]
  dsimp only
  rw [hpass]
  dsimp only
  rw [htally, ← hwrong]
  exact congrArg (Prod.mk _) (World.say_nil world)

/-- **Trials in turn are what a round comes to.** -/
theorem Trials.round_eq (hmake : Matrix.make cluster.ids true = .ok fresh)
    (h : Trials pool cluster fresh w trials w') :
    pool.round cluster (trials.map Trial.server) w = (.ok (waiting trials), w') := by
  induction h with
  | none => rfl
  | @more t trials w' hwhole _ ih =>
    -- the rest of the round starts in the world that was told of this trial
    unfold Trial.told Trial.verdict Trial.failures at ih
    rw [List.map_cons, Pool.round, Pool.trial_eq hmake hwhole]
    dsimp only
    rw [ih, waiting_cons]
    rfl

/-- Any servers can be tried in turn. -/
theorem exists_trials (pool : Pool σ) (hcrew : 0 < pool.workers)
    (hp : pool.prober.Survivable) (hmake : Matrix.make cluster.ids true = .ok fresh) :
    ∀ (pending : List Server) (w : World σ), ∃ trials w',
      trials.map Trial.server = pending ∧ Trials pool cluster fresh w trials w'
  | [], w => ⟨[], w, rfl, .none⟩
  | server :: rest, w => by
    obtain ⟨events, hwhole⟩ := exists_whole pool server.plan w hcrew hp (.make hmake)
      (Matrix.make_eq_ok hmake).1.symm
    let t : Trial σ := ⟨server, w, events, pool.pass cluster server.plan fresh w⟩
    obtain ⟨trials, w', hservers, htrials⟩ := exists_trials pool hcrew hp hmake rest t.told
    exact ⟨t :: trials, w', congrArg (server :: ·) hservers, .more hwhole htrials⟩

/-! ## Rounds -/

/-- The rounds of at most so many tries, from the servers that are pending to those that are
left. -/
inductive Rounds (pool : Pool σ) (cluster : Cluster) (fresh : Matrix) :
    Nat → List Server → World σ → List (List (Trial σ)) → List Server → World σ → Prop where
  /-- No try is left. -/
  | spent {pending : List Server} {w : World σ} :
      Rounds pool cluster fresh 0 pending w [] pending w
  /-- No server is pending. -/
  | settled {tries : Nat} {w : World σ} : Rounds pool cluster fresh tries [] w [] [] w
  /-- The pending servers are tried, and then those that still wait. -/
  | round {tries : Nat} {pending left : List Server} {w w' w'' : World σ}
      {trials : List (Trial σ)} {rounds : List (List (Trial σ))} :
      pending ≠ [] → trials.map Trial.server = pending →
      Trials pool cluster fresh w trials w' →
      Rounds pool cluster fresh tries (waiting trials) w' rounds left w'' →
      Rounds pool cluster fresh (tries + 1) pending w (trials :: rounds) left w''

/-- **Rounds are what the loop over them comes to.** -/
theorem Rounds.rounds_eq (hmake : Matrix.make cluster.ids true = .ok fresh)
    (h : Rounds pool cluster fresh tries pending w rounds left w') :
    pool.rounds cluster tries pending w = (.ok left, w') := by
  induction h with
  | spent => rfl
  | @settled tries _ => cases tries <;> rfl
  | @round tries pending _ _ _ _ _ _ hne hservers htrials _ ih =>
    have hround := htrials.round_eq hmake
    rw [hservers] at hround
    cases pending with
    | nil => exact absurd rfl hne
    | cons server rest =>
      rw [Pool.rounds, hround]
      · exact ih
      · exact List.cons_ne_nil _ _

/-- Rounds can be made from any pending servers. -/
theorem exists_rounds (pool : Pool σ) (hcrew : 0 < pool.workers)
    (hp : pool.prober.Survivable) (hmake : Matrix.make cluster.ids true = .ok fresh) :
    ∀ (tries : Nat) (pending : List Server) (w : World σ), ∃ rounds left w',
      Rounds pool cluster fresh tries pending w rounds left w'
  | 0, pending, w => ⟨[], pending, w, .spent⟩
  | tries + 1, pending, w => by
    by_cases hpending : pending = []
    · subst hpending
      exact ⟨[], [], w, .settled⟩
    · obtain ⟨trials, w', hservers, htrials⟩ := exists_trials pool hcrew hp hmake pending w
      obtain ⟨rounds, left, w'', hrounds⟩ :=
        exists_rounds pool hcrew hp hmake tries (waiting trials) w'
      exact ⟨trials :: rounds, left, w'', .round hpending hservers htrials hrounds⟩

/-- **With fewer tries the same rounds are made, as far as the tries go.** -/
theorem Rounds.take (h : Rounds pool cluster fresh more pending w rounds left w') :
    ∀ {tries : Nat}, tries ≤ more → ∃ left' w'',
      Rounds pool cluster fresh tries pending w (rounds.take tries) left' w'' := by
  induction h with
  | @spent pending w =>
    intro tries hle
    rw [Nat.le_zero.mp hle]
    exact ⟨pending, w, .spent⟩
  | @settled _ w =>
    intro tries _
    rw [List.take_nil]
    exact ⟨[], w, .settled⟩
  | @round _ pending _ w _ _ _ _ hne hservers htrials _ ih =>
    intro tries hle
    cases tries with
    | zero => exact ⟨pending, w, .spent⟩
    | succ tries =>
      obtain ⟨left', w'', hrounds⟩ := ih (Nat.le_of_succ_le_succ hle)
      exact ⟨left', w'', .round hne hservers htrials hrounds⟩

end PodMesh
