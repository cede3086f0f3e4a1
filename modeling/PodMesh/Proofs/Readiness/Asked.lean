import PodMesh.Proofs.Pass.Independence
import PodMesh.Proofs.Readiness.Waiting

/-!
# What a wait asks for

Whoever is asked, and however its passes end, a wait asks for the listed servers and for nothing
else (`wait_asks_for_listed_servers`). That a server is listed does not mean that anyone serves
it: where different ports are served over different protocols a wait tries pairs of them that
nobody serves, and with a prober that reaches only what is served it never succeeds
(`wait_fails_on_unserved_server`). Where every port is served over every protocol, as in a
cluster that was built so, it asks only for what is served.
-/

namespace PodMesh

open Pass

/-- The server that a question is about. -/
def Target.server (target : Target) : Server := ⟨target.port, target.protocol⟩

variable {σ : Type} {pool : Pool σ} {cluster : Cluster} {w w₀ w₁ : World σ}
  {servers : List Server} {server : Server}

/-! ## Questions about some servers -/

/-- Was everything that was asked since an earlier moment about some servers? -/
def World.AsksWithin (servers : List Server) (w₀ w : World σ) : Prop :=
  w₀.journal <+: w.journal ∧ ∀ target ∈ w.askedSince w₀, target.server ∈ servers

namespace World.AsksWithin

theorem refl (servers : List Server) (w : World σ) : AsksWithin servers w w :=
  ⟨List.prefix_refl _, by simp⟩

theorem trans (h₁ : AsksWithin servers w₀ w₁) (h : AsksWithin servers w₁ w) :
    AsksWithin servers w₀ w := by
  refine ⟨h₁.1.trans h.1, fun target htarget => ?_⟩
  rw [askedSince_trans h₁.1 h.1] at htarget
  rcases List.mem_append.mp htarget with htarget | htarget
  · exact h₁.2 target htarget
  · exact h.2 target htarget

/-- Saying something asks nothing. -/
theorem say (h : AsksWithin servers w₀ w) (notices : List Notice) :
    AsksWithin servers w₀ (w.say notices) := by
  refine ⟨h.1.trans (w.journal_say notices), ?_⟩
  rw [askedSince_say h.1]
  exact h.2

end World.AsksWithin

open World (AsksWithin)

/-- A job of a server's plan asks about that server. -/
theorem Job.target?_server {job : Job} {target : Target}
    (hj : job ∈ jobs cluster server.plan) (ht : job.target? = some target) :
    target.server = server := by
  obtain ⟨_, hport, hprotocol⟩ := Job.target?_eq_some ht
  rw [Job.port?, plan_of_mem_jobs hj] at hport
  rw [plan_of_mem_jobs hj] at hprotocol
  injection hport with hport
  rw [Target.server, ← hport, hprotocol]
  rfl

theorem Pool.trial_asks (cluster : Cluster) (hcrew : 0 < pool.workers)
    (hserver : server ∈ servers) (w : World σ) :
    AsksWithin servers w (pool.trial cluster server w).2 := by
  unfold Pool.trial
  cases hmake : Matrix.make cluster.ids true with
  | error fault => exact .refl servers w
  | ok matrix =>
    have hids := (Matrix.make_eq_ok hmake).1.symm
    obtain ⟨events, hends⟩ := pass_ends pool server.plan w hids
    obtain ⟨hgrown, hasked⟩ := hends.asked hcrew (.make hmake) hids
    have hasks : AsksWithin servers w (pool.pass cluster server.plan matrix w).world := by
      refine ⟨hgrown, fun target htarget => ?_⟩
      obtain ⟨job, hj, ht⟩ := hasked target htarget
      rw [Job.target?_server hj ht]
      exact hserver
    dsimp only
    generalize pool.pass cluster server.plan matrix w = after at hasks
    obtain ⟨_ | _, after, world⟩ := after
    · exact hasks
    · dsimp only
      cases after.tally false with
      | error fault => exact hasks
      | ok counted => exact hasks.say counted.2

/-- A round asks about the servers it is given, and leaves none but those. -/
theorem Pool.round_asks (cluster : Cluster) (hcrew : 0 < pool.workers) :
    ∀ (pending : List Server) (w : World σ), pending ⊆ servers →
      AsksWithin servers w (pool.round cluster pending w).2 ∧
      ∀ left, (pool.round cluster pending w).1 = .ok left → left ⊆ servers
  | [], w, _ => ⟨.refl servers w, fun _ h => Except.ok.inj h ▸ List.nil_subset _⟩
  | server :: rest, w, hsub => by
    obtain ⟨hserver, hrest⟩ := List.cons_subset.mp hsub
    have htrial := Pool.trial_asks cluster hcrew hserver w
    rw [Pool.round]
    generalize pool.trial cluster server w = tried at htrial
    obtain ⟨fault | failed, world⟩ := tried
    · exact ⟨htrial, fun _ h => by cases h⟩
    · dsimp only
      obtain ⟨hasks, hleft⟩ := Pool.round_asks cluster hcrew rest (world.say
        [if failed = 0 then .ready server.port server.protocol
          else .notReady server.port server.protocol failed]) hrest
      generalize pool.round cluster rest _ = made at hasks hleft
      obtain ⟨fault | waiting, world'⟩ := made
      · exact ⟨(htrial.say _).trans hasks, fun _ h => by cases h⟩
      · refine ⟨(htrial.say _).trans hasks, fun left h => ?_⟩
        injection h with h
        subst h
        split
        · exact hleft waiting rfl
        · exact List.cons_subset.mpr ⟨hserver, hleft waiting rfl⟩

/-- Rounds ask about the servers they are given. -/
theorem Pool.rounds_asks (cluster : Cluster) (hcrew : 0 < pool.workers) :
    ∀ (tries : Nat) (pending : List Server) (w : World σ), pending ⊆ servers →
      AsksWithin servers w (pool.rounds cluster tries pending w).2
  | 0, _, w, _ => .refl servers w
  | _ + 1, [], w, _ => .refl servers w
  | tries + 1, server :: rest, w, hsub => by
    obtain ⟨hasks, hleft⟩ := Pool.round_asks cluster hcrew (server :: rest) w hsub
    rw [Pool.rounds]
    · generalize pool.round cluster (server :: rest) w = made at hasks hleft
      obtain ⟨fault | waiting, world⟩ := made
      · exact hasks
      · exact hasks.trans (Pool.rounds_asks cluster hcrew tries waiting world (hleft waiting rfl))
    · exact List.cons_ne_nil _ _

/-- **A wait asks about the listed servers.** -/
theorem Pool.waitReady_asks (cluster : Cluster) (hcrew : 0 < pool.workers) (tries : Nat)
    (world : World σ) :
    AsksWithin cluster.servers world (pool.waitReady cluster tries world).2 := by
  have hasks := Pool.rounds_asks cluster hcrew tries cluster.servers
    (world.say [.waiting cluster.servers.length]) (List.Subset.refl _)
  have hsaid := (AsksWithin.refl cluster.servers world).say [.waiting cluster.servers.length]
  unfold Pool.waitReady
  dsimp only
  generalize pool.rounds cluster tries cluster.servers _ = made at hasks
  obtain ⟨fault | _ | waiting, after⟩ := made
  · exact hsaid.trans hasks
  · exact hsaid.trans hasks
  · exact hsaid.trans hasks

/-! ## Listed and served -/

/--
**A wait asks for no port and no protocol that no container serves.**

This holds for any prober and under any schedule, also when workers are lost. The port and the
protocol of one question may be those of two containers.
-/
theorem wait_asks_for_listed_servers (prober : Prober σ) (workers : Option Nat)
    (schedule : Nat → Thread) (cluster : Cluster) (tries : Nat) (world : World σ) :
    ∀ target ∈ ((((Pool.make prober workers).under schedule).waitReady
      cluster tries world).2.askedSince world),
      target.port ≠ 0 ∧ (∃ container ∈ cluster.containers, container.port = target.port) ∧
      ∃ container ∈ cluster.containers, container.protocol = target.protocol := by
  intro target htarget
  have hasks := ((Pool.make prober workers).under schedule).waitReady_asks cluster
    (make_workers_pos prober workers) tries world
  exact Cluster.mem_servers.mp (hasks.2 target htarget)

/-- Where all that is listed is served, a wait asks for what is served. -/
theorem wait_asks_for_served_servers (prober : Prober σ) (workers : Option Nat)
    (schedule : Nat → Thread) {cluster : Cluster} (tries : Nat) (world : World σ)
    (h : ∀ server ∈ cluster.servers, cluster.Serves server) :
    ∀ target ∈ ((((Pool.make prober workers).under schedule).waitReady
      cluster tries world).2.askedSince world), cluster.Serves target.server := by
  intro target htarget
  have hasks := ((Pool.make prober workers).under schedule).waitReady_asks cluster
    (make_workers_pos prober workers) tries world
  exact h _ (hasks.2 target htarget)

/-- A job about what nobody serves fails. -/
theorem Job.outcome_unserved {reading : Target → Reading}
    (hreach : ∀ target, (reading target).connected = true → cluster.Serves target.server)
    (hserved : ¬ cluster.Serves server) {job : Job} (hj : job ∈ jobs cluster server.plan)
    (hskipped : job.target.skipped = false) : (job.outcome reading).connected = false := by
  unfold Job.outcome
  cases hcall : job.call with
  | skip =>
    rw [Job.call, hskipped] at hcall
    cases hq : job.question <;> simp [hq] at hcall
  | hopeless error => rfl
  | ask target =>
    have hserver := Job.target?_server hj (Job.call_eq_ask_iff.mp hcall)
    have hfails : (reading target).connected = false :=
      Bool.eq_false_iff.mpr fun h => hserved (hserver ▸ hreach target h)
    simp [Job.judged, hfails]

/-- **With a prober that reaches only what is served, a wait for a server that is listed but not
served never succeeds.** -/
theorem wait_fails_on_unserved_server {prober : Prober σ} {reading : Target → Reading}
    (hp : prober.AnswersBy reading) (workers : Option Nat) (schedule : Nat → Thread)
    (hids : (cluster.ids.map Identity.text).Nodup)
    (hreach : ∀ target, (reading target).connected = true → cluster.Serves target.server)
    (hlisted : server ∈ cluster.servers) (hserved : ¬ cluster.Serves server)
    {pod : Pod} (hpod : pod ∈ cluster.pods) (hskipped : pod.skipped = false) (tries : Nat)
    (world : World σ) : ∃ n, (((Pool.make prober workers).under schedule).waitReady
      cluster tries world).1 = .error (.notReady tries n) := by
  obtain ⟨fresh, hmake⟩ := Matrix.exists_make hids true
  obtain ⟨rounds, left, w', hrounds⟩ := exists_rounds ((Pool.make prober workers).under schedule)
    (make_workers_pos prober workers) hp.survivable hmake tries cluster.servers
    (world.say [.waiting cluster.servers.length])
  have hwaited := hrounds.waited hmake
  refine ⟨_, hwaited.error fun hok => ?_⟩
  -- a clean trial of the server would have reached the pod
  obtain ⟨t, ht, rfl, hclean⟩ := hwaited.ok_iff.mp hok server hlisted
  have hj : ⟨pod, pod, t.server.plan, cluster.domain⟩ ∈ jobs cluster t.server.plan :=
    List.mem_flatMap.mpr ⟨pod, hpod, List.mem_map_of_mem hpod⟩
  have hexact := (hrounds.trials.whole t ht).exact
  have ho := (recorded_perm hp hexact).mem_iff.mpr (List.mem_map_of_mem hj)
  have hconnected := (hwaited.clean_iff t ht).mp hclean _ ho
  rw [Job.outcome_unserved hreach hserved hj hskipped] at hconnected
  exact Bool.noConfusion hconnected

/-- A prober that reaches a port over a protocol if the cluster with two ports serves it. -/
def serving : Prober Unit where
  ask := fun _ target =>
    (.reading { connected := Cluster.twoPorts.Serves target.server } [], ())

/-- The port that is served over TCP is asked for over UDP, too. All that is served can be reached,
but the wait never succeeds. -/
theorem wait_asks_for_unserved_servers :
    (∃ target ∈ (((Pool.make serving (some 1)).under fun _ => .main).waitReady
      Cluster.twoPorts 1 { memory := () }).2.askedSince { memory := () },
      ¬ Cluster.twoPorts.Serves target.server) ∧
    ∀ tries, ∃ n, (((Pool.make serving (some 1)).under fun _ => .main).waitReady
      Cluster.twoPorts tries { memory := () }).1 = .error (.notReady tries n) := by
  have hp : serving.AnswersBy fun target : Target =>
      { connected := Cluster.twoPorts.Serves target.server } := fun _ _ => ⟨[], rfl⟩
  have hreach : ∀ target : Target, decide (Cluster.twoPorts.Serves target.server) = true →
      Cluster.twoPorts.Serves target.server := fun _ => of_decide_eq_true
  have hlisted : ⟨80, .udp⟩ ∈ Cluster.twoPorts.servers := by decide
  have hserved : ¬ Cluster.twoPorts.Serves ⟨80, .udp⟩ := by decide
  refine ⟨by decide +kernel, fun tries => ?_⟩
  exact wait_fails_on_unserved_server hp (some 1) (fun _ => .main) (by decide) hreach hlisted
    hserved List.mem_cons_self rfl tries { memory := () }

end PodMesh
