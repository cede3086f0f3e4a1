import PodMesh.Proofs.Pass.Journal
import PodMesh.Proofs.Pass.Progress
import PodMesh.Readiness
import PodMesh.Validation

/-!
# Work that is made of passes

A validation makes one pass or two, and a wait for servers makes one for each trial. Nothing else
in them asks the prober anything: between two passes there are only words. So either is some laps
over the cluster (`Laps`), each of them a pass with what its threads did, and the journal shows the
questions of the laps, one lap after another (`Laps.asked`). What is to be known of every pass of a
validation or of a wait only needs to be proved of a pass.
-/

namespace PodMesh

open Pass

variable {σ α : Type} {pool : Pool σ} {cluster : Cluster} {plan : Plan} {matrix : Matrix}
  {world w w₀ w₁ : World σ}

/-! ## Laps -/

/-- A pass over a cluster: what it started from, what its threads did, and what it left. -/
structure Lap (σ : Type) where
  plan : Plan
  matrix : Matrix
  world : World σ
  events : List Event
  after : After σ Unit

/-- Did a pool make the lap? -/
structure Lap.Made (pool : Pool σ) (cluster : Cluster) (lap : Lap σ) : Prop where
  /-- It is the pool's pass, under its schedule. -/
  pass : pool.pass cluster lap.plan lap.matrix lap.world = lap.after
  /-- This is what its threads did. -/
  ends : Ends pool cluster lap.plan lap.matrix lap.world lap.events lap.after

/-- Some laps over a cluster, one after another, with nothing but words between them. -/
inductive Laps (pool : Pool σ) (cluster : Cluster) (first : World σ) :
    List (Lap σ) → World σ → Prop where
  | start : Laps pool cluster first [] first
  | say {laps : List (Lap σ)} {world : World σ} (notices : List Notice) :
      Laps pool cluster first laps world → Laps pool cluster first laps (world.say notices)
  | lap {laps : List (Lap σ)} {lap : Lap σ} :
      Laps pool cluster first laps lap.world → lap.Made pool cluster →
      Laps pool cluster first (laps ++ [lap]) lap.after.world

namespace Laps

variable {laps laps₁ : List (Lap σ)}

theorem trans (h₁ : Laps pool cluster w₀ laps₁ w₁) (h : Laps pool cluster w₁ laps w) :
    Laps pool cluster w₀ (laps₁ ++ laps) w := by
  induction h with
  | start => rwa [List.append_nil]
  | say notices _ ih => exact ih.say notices
  | lap _ hmade ih =>
    rw [← List.append_assoc]
    exact ih.lap hmade

theorem made (h : Laps pool cluster w₀ laps w) : ∀ lap ∈ laps, lap.Made pool cluster := by
  induction h with
  | start => exact fun _ hlap => nomatch hlap
  | say _ _ ih => exact ih
  | lap _ hmade ih =>
    intro lap hlap
    rcases List.mem_append.mp hlap with hlap | hlap
    · exact ih lap hlap
    · exact List.mem_singleton.mp hlap ▸ hmade

/-- **The prober is asked in the laps and at no other time.** -/
theorem asked (h : Laps pool cluster w₀ laps w) : w₀.journal <+: w.journal ∧
    w.askedSince w₀ = laps.flatMap fun lap => targets lap.events := by
  induction h with
  | start => exact ⟨List.prefix_refl _, World.askedSince_self _⟩
  | say notices _ ih =>
    obtain ⟨hgrown, hasked⟩ := ih
    exact ⟨hgrown.trans (World.journal_say _ notices),
      (World.askedSince_say hgrown notices).trans hasked⟩
  | lap _ hmade ih =>
    obtain ⟨hgrown, hasked⟩ := ih
    obtain ⟨last, hrun, _, _, hworld⟩ := hmade.ends
    obtain ⟨hgrown', hasked'⟩ := asked_run hrun
    rw [hworld] at hgrown' hasked'
    refine ⟨hgrown.trans hgrown', ?_⟩
    rw [World.askedSince_trans hgrown hgrown', hasked, List.flatMap_append, List.flatMap_singleton]
    exact congrArg _ hasked'

end Laps

/-- Work that is made of laps and, if it comes to a result, leaves the matrix of a lap that
succeeded. -/
structure Lapped (pool : Pool σ) (cluster : Cluster) (world : World σ) (laps : List (Lap σ))
    (after : After σ α) : Prop where
  made : Laps pool cluster world laps after.world
  ok : ∀ a, after.result = .ok a →
    ∃ lap ∈ laps, lap.after.result = .ok () ∧ lap.after.matrix = after.matrix

namespace Pool

variable {laps : List (Lap σ)} {server : Server}

/-- A pass is one lap, or none if it is refused. -/
theorem exists_lapped_pass (pool : Pool σ) (cluster : Cluster) (plan : Plan) (matrix : Matrix)
    (world : World σ) :
    ∃ laps, Lapped pool cluster world laps (pool.pass cluster plan matrix world) := by
  by_cases hids : cluster.ids = matrix.pods
  · obtain ⟨events, hends⟩ := pass_ends pool plan world hids
    let lap : Lap σ := ⟨plan, matrix, world, events, pool.pass cluster plan matrix world⟩
    have hlaps : Laps pool cluster world ([] ++ [lap]) lap.after.world :=
      .lap .start ⟨rfl, hends⟩
    exact ⟨[lap], hlaps, fun _ hok => ⟨lap, List.mem_cons_self, hok, rfl⟩⟩
  · rw [pass, if_neg hids]
    exact ⟨[], .start, fun _ hok => nomatch hok⟩

/-! ## Validations -/

/-- A second try is one more lap, or none if nothing is wrong. -/
theorem exists_lapped_retry {first : After σ Unit} (hfirst : Lapped pool cluster world laps first)
    (hok : first.result = .ok ()) (plan : Plan) (incorrect : Nat) (notices : List Notice) :
    ∃ laps, Lapped pool cluster world laps
      (pool.retry cluster plan incorrect first.matrix (first.world.say notices)) := by
  unfold retry
  split
  · exact ⟨laps, hfirst.made.say notices, fun _ _ => hfirst.ok () hok⟩
  · obtain ⟨laps', h⟩ := exists_lapped_pass pool cluster plan first.matrix
      ((first.world.say notices).say [.secondTry incorrect])
    refine ⟨laps ++ laps', ((hfirst.made.say notices).say _).trans h.made, fun a ha => ?_⟩
    obtain ⟨lap, hlap, hlast⟩ := h.ok a ha
    exact ⟨lap, List.mem_append_right _ hlap, hlast⟩

/-- The final count adds nothing but words. -/
theorem lapped_verdict {last : After σ Unit} (hlast : Lapped pool cluster world laps last)
    (hok : last.result = .ok ()) (plan : Plan) :
    Lapped pool cluster world laps (verdict plan last.matrix last.world) := by
  unfold verdict
  split
  · exact ⟨hlast.made, fun _ h => nomatch h⟩
  · exact ⟨hlast.made.say _, fun _ _ => hlast.ok () hok⟩

/-- **A validation is made of laps.** -/
theorem exists_lapped_validate (pool : Pool σ) (cluster : Cluster) (plan : Plan) (matrix : Matrix)
    (world : World σ) :
    ∃ laps, Lapped pool cluster world laps (pool.validate cluster plan matrix world) := by
  obtain ⟨laps₁, h₁⟩ := exists_lapped_pass pool cluster plan matrix (world.say [.firstTry])
  have hfirst : Lapped pool cluster world laps₁
      (pool.pass cluster plan matrix (world.say [.firstTry])) :=
    ⟨(Laps.start.say [.firstTry]).trans h₁.made, h₁.ok⟩
  rw [validate]
  -- a fault ends the validation with the laps that were made by then
  generalize pool.pass cluster plan matrix (world.say [.firstTry]) = first at hfirst
  obtain ⟨fault | _, matrix₁, world₁⟩ := first
  · exact ⟨laps₁, hfirst.made, fun _ h => nomatch h⟩
  · dsimp only
    cases matrix₁.tally plan.ignoreLoopback with
    | error fault => exact ⟨laps₁, hfirst.made, fun _ h => nomatch h⟩
    | ok counted =>
      obtain ⟨laps₂, hsecond⟩ := exists_lapped_retry hfirst rfl plan counted.1.incorrect counted.2
      dsimp only at hsecond ⊢
      generalize pool.retry cluster plan counted.1.incorrect matrix₁ _ = second at hsecond
      obtain ⟨fault | _, matrix₂, world₂⟩ := second
      · exact ⟨laps₂, hsecond.made, fun _ h => nomatch h⟩
      · exact ⟨laps₂, lapped_verdict hsecond rfl plan⟩

/-! ## Waiting -/

theorem exists_laps_trial (pool : Pool σ) (cluster : Cluster) (server : Server) (w : World σ) :
    ∃ laps, Laps pool cluster w laps (pool.trial cluster server w).2 := by
  unfold trial
  cases Matrix.make cluster.ids true with
  | error fault => exact ⟨[], .start⟩
  | ok matrix =>
    obtain ⟨laps, h⟩ := exists_lapped_pass pool cluster server.plan matrix w
    have hlaps := h.made
    dsimp only
    generalize pool.pass cluster server.plan matrix w = after at hlaps
    obtain ⟨fault | _, matrix', world⟩ := after
    · exact ⟨laps, hlaps⟩
    · dsimp only
      cases matrix'.tally false with
      | error fault => exact ⟨laps, hlaps⟩
      | ok counted => exact ⟨laps, hlaps.say counted.2⟩

theorem exists_laps_round (pool : Pool σ) (cluster : Cluster) :
    ∀ (pending : List Server) (w : World σ),
      ∃ laps, Laps pool cluster w laps (pool.round cluster pending w).2
  | [], _ => ⟨[], .start⟩
  | server :: rest, w => by
    obtain ⟨laps, htrial⟩ := exists_laps_trial pool cluster server w
    rw [round]
    generalize pool.trial cluster server w = tried at htrial
    obtain ⟨fault | failed, world⟩ := tried
    · exact ⟨laps, htrial⟩
    · -- what is said about the server stands between its trial and the next
      dsimp only
      obtain ⟨laps', hrest⟩ := exists_laps_round pool cluster rest (world.say
        [if failed = 0 then .ready server.port server.protocol
          else .notReady server.port server.protocol failed])
      generalize pool.round cluster rest _ = made at hrest
      obtain ⟨fault | waiting, world'⟩ := made
      · exact ⟨laps ++ laps', (htrial.say _).trans hrest⟩
      · exact ⟨laps ++ laps', (htrial.say _).trans hrest⟩

theorem exists_laps_rounds (pool : Pool σ) (cluster : Cluster) :
    ∀ (tries : Nat) (pending : List Server) (w : World σ),
      ∃ laps, Laps pool cluster w laps (pool.rounds cluster tries pending w).2
  | 0, _, _ => ⟨[], .start⟩
  | _ + 1, [], _ => ⟨[], .start⟩
  | tries + 1, server :: rest, w => by
    obtain ⟨laps, hround⟩ := exists_laps_round pool cluster (server :: rest) w
    rw [rounds]
    · generalize pool.round cluster (server :: rest) w = made at hround
      obtain ⟨fault | waiting, world⟩ := made
      · exact ⟨laps, hround⟩
      · obtain ⟨laps', hrest⟩ := exists_laps_rounds pool cluster tries waiting world
        exact ⟨laps ++ laps', hround.trans hrest⟩
    · exact List.cons_ne_nil _ _

/-- **A wait for servers is made of laps.** -/
theorem exists_laps_waitReady (pool : Pool σ) (cluster : Cluster) (tries : Nat) (world : World σ) :
    ∃ laps, Laps pool cluster world laps (pool.waitReady cluster tries world).2 := by
  obtain ⟨laps, hrounds⟩ := exists_laps_rounds pool cluster tries cluster.servers
    (world.say [.waiting cluster.servers.length])
  have hlaps := (Laps.start.say [.waiting cluster.servers.length]).trans hrounds
  rw [List.nil_append] at hlaps
  refine ⟨laps, ?_⟩
  unfold waitReady
  dsimp only
  generalize pool.rounds cluster tries cluster.servers _ = made at hlaps
  obtain ⟨fault | _ | waiting, after⟩ := made
  · exact hlaps
  · exact hlaps
  · exact hlaps

end Pool

end PodMesh
