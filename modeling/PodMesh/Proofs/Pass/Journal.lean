import PodMesh.Proofs.Pass.Ending
import PodMesh.Proofs.Pass.Jobs

/-!
# What a pass asks and says

Every question of a pass is its own job's, and is asked once: the jobs that were settled or
lost so far, and that have a question at all, are those the prober was asked about
(`queried_run`). The answers are those of the one prober, in the order in which the workers
got to it, and the journal shows the same questions, beside what the main thread said about
each outcome it recorded (`told_run`).
-/

namespace PodMesh

variable {σ : Type}

namespace Prober

/-- No question to the prober ever kills who asks it. -/
def Survivable (prober : Prober σ) : Prop :=
  ∀ memory target, (prober.ask memory target).1 ≠ .death

/-- The answers to some questions, put one after another. -/
def answers (prober : Prober σ) : σ → List Target → List Answer
  | _, [] => []
  | memory, target :: rest =>
    (prober.ask memory target).1 :: prober.answers (prober.ask memory target).2 rest

/-- What a prober remembers after some questions. -/
def after (prober : Prober σ) (memory : σ) (targets : List Target) : σ :=
  targets.foldl (fun memory target => (prober.ask memory target).2) memory

/-- One more question, with the memory that the earlier ones left. -/
theorem answers_snoc (prober : Prober σ) (target : Target) :
    ∀ (targets : List Target) (memory : σ),
      prober.answers memory (targets ++ [target]) =
        prober.answers memory targets ++ [(prober.ask (prober.after memory targets) target).1]
  | [], _ => rfl
  | _ :: rest, _ => congrArg _ (answers_snoc prober target rest _)

theorem after_snoc (prober : Prober σ) (memory : σ) (targets : List Target) (target : Target) :
    prober.after memory (targets ++ [target]) =
      (prober.ask (prober.after memory targets) target).2 := by
  simp only [after, List.foldl_append, List.foldl_cons, List.foldl_nil]

theorem Survivable.death_not_mem_answers {prober : Prober σ} (h : prober.Survivable) :
    ∀ (targets : List Target) (memory : σ), .death ∉ prober.answers memory targets
  | [], _ => List.not_mem_nil
  | target :: rest, memory => by
      rw [answers, List.mem_cons, not_or]
      exact ⟨(h memory target).symm, h.death_not_mem_answers rest _⟩

end Prober

namespace World

variable {w w₀ : World σ}

/-- What was said and asked since an earlier moment. -/
def since (w w₀ : World σ) : Journal := w.journal.drop w₀.journal.length

@[simp] theorem since_self (w : World σ) : w.since w = [] :=
  List.drop_length

@[simp] theorem since_tick (w w₀ : World σ) : w.tick.since w₀ = w.since w₀ := rfl

theorem since_append (h : w₀.journal <+: w.journal) (new : Journal) :
    (w.journal ++ new).drop w₀.journal.length = w.since w₀ ++ new :=
  List.drop_append_of_le_length h.length_le

theorem say_nil (w : World σ) : w.say [] = w := by
  simp only [say, List.map_nil, List.append_nil]

theorem since_say (h : w₀.journal <+: w.journal) (notices : List Notice) :
    (w.say notices).since w₀ = w.since w₀ ++ notices.map .said :=
  since_append h _

theorem since_ask (h : w₀.journal <+: w.journal) (prober : Prober σ) (target : Target) :
    ∃ notices : List Notice, (w.ask prober target).2.since w₀ =
      w.since w₀ ++ .asked target :: notices.map .saidByWorker :=
  ⟨_, since_append h _⟩

theorem since_trans {w₁ : World σ} (h₁ : w₀.journal <+: w₁.journal)
    (h : w₁.journal <+: w.journal) : w.since w₀ = w₁.since w₀ ++ w.since w₁ := by
  obtain ⟨new, hnew⟩ := h
  have hsince : w.since w₁ = new := by
    rw [since, ← hnew]
    exact List.drop_left
  rw [hsince, since, ← hnew]
  exact since_append h₁ new

/-- What was asked since an earlier moment. -/
def askedSince (w w₀ : World σ) : List Target := (w.since w₀).filterMap Entry.asked?

theorem journal_say (w : World σ) (notices : List Notice) :
    w.journal <+: (w.say notices).journal :=
  List.prefix_append _ _

@[simp] theorem askedSince_self (w : World σ) : w.askedSince w = [] := by
  rw [askedSince, since_self]
  rfl

/-- Saying something is not asking. -/
theorem askedSince_say (h : w₀.journal <+: w.journal) (notices : List Notice) :
    (w.say notices).askedSince w₀ = w.askedSince w₀ := by
  rw [askedSince, since_say h, List.filterMap_append]
  simp [List.filterMap_map, Function.comp_def, Entry.asked?, askedSince]

theorem journal_ask (w : World σ) (prober : Prober σ) (target : Target) :
    w.journal <+: (w.ask prober target).2.journal :=
  List.prefix_append _ _

/-- A question is asked once, whatever the prober answers. -/
theorem askedSince_ask (h : w₀.journal <+: w.journal) (prober : Prober σ) (target : Target) :
    (w.ask prober target).2.askedSince w₀ = w.askedSince w₀ ++ [target] := by
  obtain ⟨notices, hsince⟩ := since_ask h prober target
  rw [askedSince, hsince, List.filterMap_append]
  simp [List.filterMap_map, Function.comp_def, Entry.asked?, askedSince]

theorem askedSince_trans {w₁ : World σ} (h₁ : w₀.journal <+: w₁.journal)
    (h : w₁.journal <+: w.journal) :
    w.askedSince w₀ = w₁.askedSince w₀ ++ w.askedSince w₁ := by
  rw [askedSince, since_trans h₁ h, List.filterMap_append]
  rfl

end World

/-- A job with its question, if it has one. -/
def Job.query? (job : Job) : Option (Job × Target) := job.target?.map (job, ·)

namespace Pass

variable {prober : Prober σ} {size : Nat} {s s' : State σ} {es new : List Event}
  {js : List Job} {crew : Nat} {m : Matrix} {first w : World σ}

/-! ## Questions and jobs -/

theorem lost?_eq_some {event : Event} {job : Job} :
    event.lost? = some job ↔ ∃ target, event.call? = some (job, target, .death) := by
  cases event with
  | asked job' target answer => cases answer <;> simp [Event.lost?, Event.call?]
  | settled _ | entered _ | dropped _ => simp [Event.lost?, Event.call?]

/-- The jobs that are lost are those about which a question killed a worker. -/
theorem mem_losses {job : Job} : job ∈ losses es ↔ ∃ target, (job, target, .death) ∈ calls es := by
  simp only [losses, calls, List.mem_filterMap, lost?_eq_some]
  constructor
  · rintro ⟨event, hmem, target, he⟩
    exact ⟨target, event, hmem, he⟩
  · rintro ⟨target, event, hmem, he⟩
    exact ⟨event, hmem, target, he⟩

/-- The jobs that the prober was asked about, each with its question. -/
def queries (events : List Event) : List (Job × Target) :=
  (calls events).map fun (job, target, _) => (job, target)

/-- The questions to the prober. -/
def targets (events : List Event) : List Target := (queries events).map Prod.snd

@[simp] theorem queries_append (es es' : List Event) :
    queries (es ++ es') = queries es ++ queries es' := by
  simp only [queries, calls_append, List.map_append]

@[simp] theorem targets_append (es es' : List Event) :
    targets (es ++ es') = targets es ++ targets es' := by
  simp only [targets, queries_append, List.map_append]

/-- Does an outcome come from its own job: without any question, or from the prober's answer to
the one question about it? -/
def Answered (events : List Event) (o : Outcome) : Prop :=
  Unasked o.job o ∨ ∃ target reading notices, o.job.target? = some target ∧
    (o.job, target, .reading reading notices) ∈ calls events ∧ o = o.job.judged reading

theorem Answered.mono {es' : List Event} {o : Outcome} (h : Answered es o)
    (hsub : calls es ⊆ calls es') : Answered es' o := by
  rcases h with h | ⟨target, reading, notices, ht, hcall, ho⟩
  · exact .inl h
  · exact .inr ⟨target, reading, notices, ht, hsub hcall, ho⟩

/-- Questions, losses and outcomes go together. -/
structure Queried (events : List Event) : Prop where
  /-- The prober was asked about each job that has a question, once, by the time it is done with. -/
  queries : (queries events).Perm ((done events).filterMap Job.query?)
  /-- Every outcome comes from its own job. -/
  answered : ∀ o ∈ produced events, Answered events o

theorem queried_nil : Queried [] := ⟨.refl _, by simp [produced]⟩

theorem Queried.append {es' : List Event} (h : Queried es) (h' : Queried es') :
    Queried (es ++ es') := by
  constructor
  · refine List.perm_iff_count.mpr fun query => ?_
    have hc := h.queries.count_eq query
    have hc' := h'.queries.count_eq query
    simp only [done, queries_append, losses_append, produced_append, List.map_append,
      List.filterMap_append, List.count_append] at hc hc' ⊢
    omega
  · intro o ho
    rw [produced_append] at ho
    rcases List.mem_append.mp ho with ho | ho
    · refine (h.answered o ho).mono ?_
      rw [calls_append]
      exact List.subset_append_left _ _
    · refine (h'.answered o ho).mono ?_
      rw [calls_append]
      exact List.subset_append_right _ _

/-- The prober is asked about the jobs that are done with and have a question. -/
theorem mem_queries_iff (h : Queried es) {job : Job} {target : Target} :
    (job, target) ∈ queries es ↔ job ∈ done es ∧ job.target? = some target := by
  rw [h.queries.mem_iff, List.mem_filterMap]
  constructor
  · rintro ⟨job', hdone, hquery⟩
    obtain ⟨target', htarget, heq⟩ := Option.map_eq_some_iff.mp hquery
    obtain ⟨rfl, rfl⟩ := Prod.mk.injEq .. ▸ heq
    exact ⟨hdone, htarget⟩
  · rintro ⟨hdone, htarget⟩
    exact ⟨job, hdone, by rw [Job.query?, htarget]; rfl⟩

/-- A job that is settled without asking has no question. -/
theorem Unasked.target?_eq_none {job : Job} {o : Outcome} (h : Unasked job o) :
    job.target? = none := by
  have hcall : ∀ target, job.call ≠ .ask target := by
    rcases h with ⟨hc, _⟩ | ⟨error, hc, _⟩ <;> simp [hc]
  cases ht : job.target? with
  | none => rfl
  | some target => exact absurd (Job.call_eq_ask_iff.mpr ht) (hcall target)

/-- Whatever a move does to jobs, questions go with it. -/
theorem queried_move (hm : Move prober size s new s') : Queried new := by
  cases hm with
  | send _ _ _ _ | giveUp _ _ _ | close _ _ | complete _ | fallShort _ _ _ _ | join _ _
  | take _ _ | leave _ _ _ | deliver _ _ _ => exact queried_nil
  | enter _ _ _ _ | refuse _ _ _ _ | discard _ _ => exact ⟨.refl _, fun _ ho => nomatch ho⟩
  | @settle _ _ job outcome _ ho =>
    have hdone : done [.settled outcome] = [job] := congrArg (fun job => [job]) ho.job_eq
    refine ⟨?_, fun o hmem => ?_⟩
    · rw [hdone, List.filterMap_cons, Job.query?, ho.target?_eq_none]
      exact .refl _
    · rw [List.mem_singleton.mp hmem]
      exact .inl (ho.job_eq.symm ▸ ho)
  | @ask _ _ job target reading notices _ hcall _ =>
    have ht := Job.call_eq_ask_iff.mp hcall
    refine ⟨?_, fun o hmem => ?_⟩
    · have hquery : [job].filterMap Job.query? = [(job, target)] := by simp [Job.query?, ht]
      exact .of_eq hquery.symm
    · rw [List.mem_singleton.mp hmem]
      exact .inr ⟨target, reading, notices, ht, List.mem_cons_self .., rfl⟩
  | @die _ _ job target _ hcall _ =>
    have ht := Job.call_eq_ask_iff.mp hcall
    have hquery : [job].filterMap Job.query? = [(job, target)] := by simp [Job.query?, ht]
    exact ⟨.of_eq hquery.symm, fun _ ho => nomatch ho⟩

/-- **Every run asks about its own jobs.** -/
theorem queried_run {s₀ : State σ} (h : Run prober size s₀ es s) : Queried es := by
  induction h with
  | start => exact queried_nil
  | step _ hs ih => exact ih.append (queried_move (step_move hs))

/-! ## The journal -/

/-- What a move asks is added to the journal. -/
theorem asked_move (h : first.journal <+: s.world.journal) (hm : Move prober size s new s') :
    first.journal <+: s'.world.journal ∧
      s'.world.askedSince first = s.world.askedSince first ++ targets new := by
  cases hm with
  | send _ _ _ _ | giveUp _ _ _ | close _ _ | complete _ | fallShort _ _ _ _
  | take _ _ | leave _ _ _ | settle _ _ | deliver _ _ _ | discard _ _ =>
    exact ⟨h, (List.append_nil _).symm⟩
  | enter _ _ _ _ | refuse _ _ _ _ | join _ _ =>
    exact ⟨h.trans (World.journal_say _ _),
      (World.askedSince_say h _).trans (List.append_nil _).symm⟩
  | ask _ _ _ | die _ _ _ =>
    exact ⟨h.trans (World.journal_ask _ prober _), World.askedSince_ask h prober _⟩

/-- **The journal shows the questions of a run**, whatever its matrix. -/
theorem asked_run {s₀ : State σ} (h : Run prober size s₀ es s) :
    s₀.world.journal <+: s.world.journal ∧ s.world.askedSince s₀.world = targets es := by
  induction h with
  | start => exact ⟨List.prefix_refl _, World.askedSince_self _⟩
  | step _ hs ih =>
    obtain ⟨hgrown, hasked⟩ := ih
    obtain ⟨hgrown', hasked'⟩ := asked_move hgrown (step_move hs)
    exact ⟨hgrown', by rw [hasked', hasked, targets_append]⟩

/-- The journal and the prober's memory tell of the same events. -/
structure Told (prober : Prober σ) (m : Matrix) (first : World σ) (events : List Event)
    (w : World σ) : Prop where
  /-- Nothing is taken out of the journal. -/
  grown : first.journal <+: w.journal
  /-- It shows the questions. -/
  asked : (w.since first).filterMap Entry.asked? = targets events
  /-- It shows what there is to say about each recorded outcome. -/
  said : (w.since first).filterMap Entry.said? = (recorded events).flatMap m.remarks
  /-- The answers are the prober's to these questions in this order. -/
  answers : (calls events).map (·.2.2) = prober.answers first.memory (targets events)
  /-- The prober remembers these questions and no others. -/
  memory : w.memory = prober.after first.memory (targets events)

theorem told_nil (prober : Prober σ) (m : Matrix) (w : World σ) : Told prober m w [] w where
  grown := List.prefix_refl _
  asked := by rw [World.since_self]; rfl
  said := by rw [World.since_self]; rfl
  answers := rfl
  memory := rfl

/-- The main thread says something about what it recorded. -/
theorem Told.say (h : Told prober m first es w) {notices : List Notice} (hc : calls new = [])
    (hn : (recorded new).flatMap m.remarks = notices) :
    Told prober m first (es ++ new) (w.say notices).tick := by
  have ht : targets (es ++ new) = targets es := by
    rw [targets_append, targets, targets, queries, queries, hc, List.map_nil, List.map_nil,
      List.append_nil]
  have hsince : (w.say notices).tick.since first = w.since first ++ notices.map .said := by
    rw [World.since_tick, World.since_say h.grown]
  refine ⟨h.grown.trans (List.prefix_append _ _), ?_, ?_, ?_, ht ▸ h.memory⟩
  · have hnone : (notices.map Entry.said).filterMap Entry.asked? = [] := by
      simp [List.filterMap_map, Function.comp_def, Entry.asked?]
    rw [hsince, List.filterMap_append, hnone, List.append_nil, ht]
    exact h.asked
  · have hall : (notices.map Entry.said).filterMap Entry.said? = notices := by
      simp [List.filterMap_map, Function.comp_def, Entry.said?]
    rw [hsince, List.filterMap_append, hall, recorded_append, List.flatMap_append, hn, h.said]
  · rw [calls_append, hc, List.append_nil, ht]
    exact h.answers

/-- Nothing is said or asked. -/
theorem Told.tick (h : Told prober m first es w) (hc : calls new = []) (hr : recorded new = []) :
    Told prober m first (es ++ new) w.tick := by
  have hsaid : (recorded new).flatMap m.remarks = [] := by rw [hr]; rfl
  have htold := h.say hc hsaid
  rw [World.say_nil] at htold
  exact htold

/-- A worker asks the prober. -/
theorem Told.ask (h : Told prober m first es w) {job : Job} {target : Target}
    (hc : calls new = [(job, target, (prober.ask w.memory target).1)])
    (hr : recorded new = []) :
    Told prober m first (es ++ new) (w.ask prober target).2.tick := by
  have ht : targets (es ++ new) = targets es ++ [target] := by
    rw [targets_append, targets, targets, queries, queries, hc]
    rfl
  obtain ⟨notices, hsince⟩ := World.since_ask h.grown prober target
  refine ⟨h.grown.trans (List.prefix_append _ _), ?_, ?_, ?_, ?_⟩
  · have hnone : (notices.map Entry.saidByWorker).filterMap Entry.asked? = [] := by
      simp [List.filterMap_map, Function.comp_def, Entry.asked?]
    rw [World.since_tick, hsince, List.filterMap_append, List.filterMap_cons, hnone, ht, h.asked]
    rfl
  · have hnone : (notices.map Entry.saidByWorker).filterMap Entry.said? = [] := by
      simp [List.filterMap_map, Function.comp_def, Entry.said?]
    rw [World.since_tick, hsince, List.filterMap_append, List.filterMap_cons, hnone,
      recorded_append, hr, List.append_nil, ← h.said]
    exact List.append_nil _
  · rw [calls_append, hc, List.map_append, h.answers, ht, Prober.answers_snoc, ← h.memory]
    rfl
  · rw [ht, Prober.after_snoc, ← h.memory]
    rfl

theorem told_move (hc : Conserved js crew es s) (hkept : Kept m es s)
    (hst : Stage js.length es s) (hw : ∀ job ∈ js, job.Within m)
    (h : Told prober m first es s.world) (hm : Move prober size s new s') :
    Told prober m first (es ++ new) s'.world := by
  cases hm with
  | send _ _ _ _ | giveUp _ _ _ | close _ _ | complete _ | fallShort _ _ _ _
  | take _ _ | leave _ _ _ | settle _ _ | deliver _ _ _ | discard _ _ => exact h.tick rfl rfl
  | refuse _ _ hr hrec => exact absurd hrec (record_ne_error hc hkept hw hr)
  | @enter count o rest m₁ notices hmain hne hr hrec =>
    obtain ⟨m', hrec', _, _⟩ := record_delivered hc hkept hw (o := o) (by simp [hr])
    have hn : notices = m.remarks o := congrArg Prod.snd (Except.ok.inj (hrec.symm.trans hrec'))
    refine h.say rfl ?_
    rw [hn]
    exact List.append_nil _
  | join hmain hd =>
    -- nobody was lost, so there is nobody to report
    have hcount : s.workers.count .lost = 0 := by
      rw [hc.lost, losses_of_joining hc hst hmain]
      rfl
    have hlost : s.workers.filter (· = .lost) = [] := by
      refine List.filter_eq_nil_iff.mpr fun w hw heq => ?_
      exact List.count_eq_zero.mp hcount (of_decide_eq_true heq ▸ hw)
    refine h.say rfl ?_
    rw [hlost]
    rfl
  | ask _ _ hans | die _ _ hans => exact h.ask (by rw [hans]; rfl) rfl

/-- **Over a sound matrix the journal tells what happened.** -/
theorem told_run {pool : Pool σ} (hs : m.Sound) (hk : (js.map Job.keys).Nodup)
    (hw : ∀ job ∈ js, job.Within m)
    (h : Run pool.prober js.length (start pool js m first) es s) :
    Told pool.prober m first es s.world := by
  induction h with
  | start => exact told_nil pool.prober m first
  | step hrun hstep ih =>
    obtain ⟨hc, hkept, hstage⟩ := invariants_run hs hk hw hrun
    exact told_move hc hkept hstage hw ih (step_move hstep)

end Pass

end PodMesh
