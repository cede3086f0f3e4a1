import Mathlib.Data.List.Chain
import PodMesh.Proofs.Readiness.Trials

/-!
# Waiting until servers are ready

The first round tries every server of a cluster, and each later one, in the same order, those
that the round before it did not find ready. So a server is tried until it was found ready
once, and then never again (`Rounds.settled`), and what is left in the end are the servers that
never were (`Rounds.left_eq`). Waiting succeeds exactly if there are none. A longer wait begins
with the very trials of a shorter one, and so it succeeds whenever the shorter one does.
-/

namespace PodMesh

open Pass Trial

variable {σ : Type} {pool : Pool σ} {cluster : Cluster} {fresh : Matrix} {w w' world : World σ}
  {t : Trial σ} {tries : Nat} {pending left : List Server} {rounds : List (List (Trial σ))}

/-! ## Clean trials -/

/-- **A trial is clean if every pair connected, a pod with itself included.** -/
theorem Trial.isClean_iff (hmake : Matrix.make cluster.ids true = .ok fresh)
    (h : Whole pool cluster t.server.plan fresh t.before t.events t.after) :
    t.isClean = true ↔ ∀ o ∈ recorded t.events, o.connected = true := by
  have hids := (Matrix.make_eq_ok hmake).1.symm
  rw [isClean, decide_eq_true_iff, failures, h.length_wrong hids,
    Matrix.length_misses_eq_zero_iff]
  refine forall₂_congr fun o ho => ?_
  have hpair := h.pair_mem ho
  rw [Cluster.pairs, hids] at hpair
  have hexpected : fresh.expectation o.job.source.id o.job.target.id = .ok true :=
    Matrix.expectation_eq_ok_iff.mpr (Matrix.expected?_make hmake hpair)
  rw [hexpected, Except.ok.injEq]
  exact ⟨fun h => (h Bool.noConfusion).symm, fun h _ => h.symm⟩

theorem Trial.waiting_sublist (trials : List (Trial σ)) :
    (waiting trials).Sublist (trials.map Trial.server) :=
  List.filter_sublist.map _

/-! ## What rounds do to the pending servers -/

namespace Rounds

theorem length_le (h : Rounds pool cluster fresh tries pending w rounds left w') :
    rounds.length ≤ tries := by
  induction h with
  | spent | settled => exact Nat.zero_le _
  | round _ _ _ _ ih => exact Nat.succ_le_succ ih

/-- No round is made for nothing. -/
theorem ne_nil (h : Rounds pool cluster fresh tries pending w rounds left w') :
    [] ∉ rounds := by
  induction h with
  | spent | settled => exact List.not_mem_nil
  | round hne hservers _ _ ih =>
    rintro (_ | ⟨_, hmem⟩)
    · exact hne hservers.symm
    · exact ih hmem

theorem first (h : Rounds pool cluster fresh tries pending w rounds left w') :
    ∀ round ∈ rounds.head?, round.map Trial.server = pending := by
  cases h with
  | spent | settled => exact fun _ hr => nomatch hr
  | round _ hservers _ _ =>
    rintro _ ⟨⟩
    exact hservers

/-- Each round tries those that the one before it left waiting. -/
theorem next (h : Rounds pool cluster fresh tries pending w rounds left w') :
    rounds.IsChain fun round later => later.map Trial.server = waiting round := by
  induction h with
  | spent | settled => exact .nil
  | round _ _ _ hrounds ih => exact List.isChain_cons.mpr ⟨hrounds.first, ih⟩

/-- The rounds are made one after another. -/
theorem trials (h : Rounds pool cluster fresh tries pending w rounds left w') :
    Trials pool cluster fresh w rounds.flatten w' := by
  induction h with
  | spent | settled => exact .none
  | round _ _ htrials _ ih => exact htrials.append ih

/-- Only pending servers are tried. -/
theorem server_mem (h : Rounds pool cluster fresh tries pending w rounds left w') :
    ∀ round ∈ rounds, ∀ t ∈ round, t.server ∈ pending := by
  induction h with
  | spent | settled => exact fun _ hr => nomatch hr
  | @round _ _ _ _ _ _ trials _ _ hservers _ _ ih =>
    intro round hr t ht
    rw [← hservers]
    rcases List.mem_cons.mp hr with rfl | hr
    · exact List.mem_map_of_mem ht
    · exact (waiting_sublist trials).subset (ih round hr t ht)

/-- Rounds end early only when nothing is left. -/
theorem left_eq_nil (h : Rounds pool cluster fresh tries pending w rounds left w')
    (hlt : rounds.length < tries) : left = [] := by
  induction h with
  | spent => exact absurd hlt (Nat.lt_irrefl _)
  | settled => rfl
  | round _ _ _ _ ih => exact ih (Nat.lt_of_succ_lt_succ hlt)

/-- **What is left was never found ready.** -/
theorem left_eq (h : Rounds pool cluster fresh tries pending w rounds left w') :
    pending.Nodup → left = pending.filter fun s => !foundReady rounds.flatten s := by
  induction h with
  | spent => exact fun _ => (List.filter_true _).symm
  | settled => exact fun _ => rfl
  | @round _ _ _ _ _ _ trials rounds _ hservers _ _ ih =>
    intro hn
    subst hservers
    -- left are those of the waiting servers that later rounds did not find ready either
    rw [ih (hn.sublist (waiting_sublist trials)), waiting_eq_filter hn, List.filter_filter]
    refine List.filter_congr fun s _ => ?_
    rw [List.flatten_cons, foundReady_append, Bool.not_or, Bool.and_comm]

/-- **A server that was found ready is never tried again.** -/
theorem settled_servers (h : Rounds pool cluster fresh tries pending w rounds left w') :
    pending.Nodup → rounds.Pairwise fun earlier later =>
      ∀ t ∈ earlier, t.isClean = true → ∀ t' ∈ later, t'.server ≠ t.server := by
  induction h with
  | spent | settled => exact fun _ => .nil
  | @round _ _ _ _ _ _ trials rounds _ hservers _ hrounds ih =>
    intro hn
    subst hservers
    refine .cons (fun later hlater t ht hclean t' ht' hsame => ?_)
      (ih (hn.sublist (waiting_sublist trials)))
    -- what is tried later waited, but this server has a clean trial
    have hwaits := hrounds.server_mem later hlater t' ht'
    rw [waiting_eq_filter hn, hsame, List.mem_filter, Bool.not_eq_true'] at hwaits
    exact Bool.noConfusion (hwaits.2.symm.trans (foundReady_iff.mpr ⟨t, ht, rfl, hclean⟩))

end Rounds

/-! ## Waiting -/

/-- What a wait of at most so many tries comes to, by its rounds. -/
structure Waited (pool : Pool σ) (cluster : Cluster) (tries : Nat) (world : World σ)
    (rounds : List (List (Trial σ))) (after : Except Fault Unit × World σ) : Prop where
  /-- Every trial is a whole pass over a new matrix that expects every pair to connect, and
  nothing comes between them but words. -/
  trials : ∃ fresh, Matrix.make cluster.ids true = .ok fresh ∧ Trials pool cluster fresh
    (world.say [.waiting cluster.servers.length]) rounds.flatten after.2
  /-- A trial is clean if every pair connected, a pod with itself included. -/
  clean_iff : ∀ t ∈ rounds.flatten,
    t.isClean = true ↔ ∀ o ∈ recorded t.events, o.connected = true
  /-- There are no more rounds than tries. -/
  length_le : rounds.length ≤ tries
  /-- No round is made for nothing. -/
  ne_nil : [] ∉ rounds
  /-- The first round tries all servers in order. -/
  first : ∀ round ∈ rounds.head?, round.map Trial.server = cluster.servers
  /-- Each round tries in order those that the one before it did not find ready. -/
  next : rounds.IsChain fun round later => later.map Trial.server = waiting round
  /-- There are fewer rounds than tries only if all were found ready. -/
  stops : rounds.length < tries →
    ∀ server ∈ cluster.servers, ∃ t ∈ rounds.flatten, t.server = server ∧ t.isClean = true
  /-- A server that was found ready is never tried again. -/
  settled : rounds.Pairwise fun earlier later =>
    ∀ t ∈ earlier, t.isClean = true → ∀ t' ∈ later, t'.server ≠ t.server
  /-- The prober is asked in the trials and at no other time. -/
  asked : after.2.askedSince world = rounds.flatten.flatMap fun t => targets t.events
  /-- The wait succeeds if every server was found ready. -/
  ok_iff : after.1 = .ok () ↔
    ∀ server ∈ cluster.servers, ∃ t ∈ rounds.flatten, t.server = server ∧ t.isClean = true
  /-- Otherwise it tells how many were not. -/
  error : after.1 ≠ .ok () → after.1 = .error
    (.notReady tries (cluster.servers.filter fun s => !foundReady rounds.flatten s).length)

/-- Every server was found ready if none remains. -/
theorem filter_foundReady_eq_nil {trials : List (Trial σ)} {servers : List Server} :
    (servers.filter fun s => !foundReady trials s) = [] ↔
      ∀ server ∈ servers, ∃ t ∈ trials, t.server = server ∧ t.isClean = true := by
  rw [List.filter_eq_nil_iff]
  refine forall₂_congr fun s _ => ?_
  rw [← foundReady_iff]
  simp

theorem Pool.waitReady_eq (hmake : Matrix.make cluster.ids true = .ok fresh)
    (h : Rounds pool cluster fresh tries cluster.servers
      (world.say [.waiting cluster.servers.length]) rounds left w') :
    pool.waitReady cluster tries world =
      (if left = [] then .ok () else .error (.notReady tries left.length), w') := by
  unfold Pool.waitReady
  dsimp only
  rw [h.rounds_eq hmake]
  cases left with
  | nil => rfl
  | cons => rfl

/-- **A wait comes to its rounds.** -/
theorem Rounds.waited (hmake : Matrix.make cluster.ids true = .ok fresh)
    (h : Rounds pool cluster fresh tries cluster.servers
      (world.say [.waiting cluster.servers.length]) rounds left w') :
    Waited pool cluster tries world rounds (pool.waitReady cluster tries world) := by
  have hleft := h.left_eq cluster.servers_nodup
  have hnil : left = [] ↔ ∀ server ∈ cluster.servers, ∃ t ∈ rounds.flatten,
      t.server = server ∧ t.isClean = true := by
    rw [hleft]
    exact filter_foundReady_eq_nil
  obtain ⟨_, hasked⟩ := h.trials.askedSince_eq (world.journal_say _)
  rw [World.askedSince_say (List.prefix_refl _), World.askedSince_self, List.nil_append] at hasked
  rw [Pool.waitReady_eq hmake h]
  exact {
    trials := ⟨fresh, hmake, h.trials⟩
    clean_iff := fun t ht => Trial.isClean_iff hmake (h.trials.whole t ht)
    length_le := h.length_le
    ne_nil := h.ne_nil
    first := h.first
    next := h.next
    stops := fun hlt => hnil.mp (h.left_eq_nil hlt)
    settled := h.settled_servers cluster.servers_nodup
    asked := hasked
    ok_iff := by
      rw [← hnil]
      by_cases hl : left = []
      · simp [hl]
      · simp [hl]
    error := by
      intro hne
      rw [← hleft]
      by_cases hl : left = []
      · exact absurd (if_pos hl) hne
      · exact if_neg hl }

/-- A wait is settled by its trials, so with more of them it succeeds all the more. -/
theorem Waited.ok_mono {more : Nat} {rounds' : List (List (Trial σ))}
    {after after' : Except Fault Unit × World σ} (h : Waited pool cluster tries world rounds after)
    (h' : Waited pool cluster more world rounds' after') (hsub : rounds.flatten ⊆ rounds'.flatten)
    (hok : after.1 = .ok ()) : after'.1 = .ok () := by
  refine h'.ok_iff.mpr fun server hserver => ?_
  obtain ⟨t, ht, hready⟩ := h.ok_iff.mp hok server hserver
  exact ⟨t, hsub ht, hready⟩

/--
**A wait tries the servers of a cluster round by round until each was found ready.**

Let no question kill a worker, and let the pods be printed differently. Under any schedule a
wait makes rounds of trials as `Waited` tells. With fewer tries it makes the same rounds, as
far as the tries go: it asks the same questions as far as it gets, and if it succeeds, so
it does with more tries.
-/
theorem wait_tries_until_ready (prober : Prober σ) (workers : Option Nat)
    (schedule : Nat → Thread) (cluster : Cluster) {tries more : Nat} (world : World σ)
    (hp : prober.Survivable) (hids : (cluster.ids.map Identity.text).Nodup)
    (hle : tries ≤ more) :
    let pool := (Pool.make prober workers).under schedule
    ∃ rounds, Waited pool cluster more world rounds (pool.waitReady cluster more world) ∧
      Waited pool cluster tries world (rounds.take tries)
        (pool.waitReady cluster tries world) ∧
      (pool.waitReady cluster tries world).2.askedSince world <+:
        (pool.waitReady cluster more world).2.askedSince world ∧
      ((pool.waitReady cluster tries world).1 = .ok () →
        (pool.waitReady cluster more world).1 = .ok ()) := by
  intro pool
  obtain ⟨fresh, hmake⟩ := Matrix.exists_make hids true
  obtain ⟨rounds, left, w', h⟩ := exists_rounds pool (make_workers_pos prober workers) hp hmake more
    cluster.servers (world.say [.waiting cluster.servers.length])
  obtain ⟨left', w'', h'⟩ := h.take hle
  have hmore := h.waited hmake
  have htries := h'.waited hmake
  have hflat : rounds.flatten = (rounds.take tries).flatten ++ (rounds.drop tries).flatten := by
    rw [← List.flatten_append, List.take_append_drop]
  refine ⟨rounds, hmore, htries, ?_, htries.ok_mono hmore ?_⟩
  · rw [htries.asked, hmore.asked, hflat, List.flatMap_append]
    exact List.prefix_append _ _
  · rw [hflat]
    exact List.subset_append_left _ _

/-- The first of four servers fails once: one try is not enough, and with two the others are tried
only in the first. -/
theorem wait_tries_until_ready_on_one_pod : ∃ rounds,
    let pool := (Pool.make flaky (some 1)).under fun _ => .main
    Waited pool Cluster.twoPorts 2 { memory := 1 } rounds
      (pool.waitReady Cluster.twoPorts 2 { memory := 1 }) ∧
    Waited pool Cluster.twoPorts 1 { memory := 1 } (rounds.take 1)
      (pool.waitReady Cluster.twoPorts 1 { memory := 1 }) ∧
    (pool.waitReady Cluster.twoPorts 1 { memory := 1 }).1 = .error (.notReady 1 1) ∧
    (pool.waitReady Cluster.twoPorts 2 { memory := 1 }).1 = .ok () ∧
    ((pool.waitReady Cluster.twoPorts 2 { memory := 1 }).2.askedSince { memory := 1 }).map
      (fun target => (target.port, target.protocol)) =
      [(80, .tcp), (80, .udp), (53, .tcp), (53, .udp), (80, .tcp)] := by
  obtain ⟨rounds, hmore, htries, _⟩ := wait_tries_until_ready flaky (some 1) (fun _ => .main)
    Cluster.twoPorts { memory := 1 } (fun _ _ => Answer.noConfusion) (by decide)
    (Nat.le_succ 1)
  exact ⟨rounds, hmore, htries, by rfl, by rfl, by decide +kernel⟩

end PodMesh
