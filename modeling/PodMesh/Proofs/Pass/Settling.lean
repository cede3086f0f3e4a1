import PodMesh.Proofs.Pass.Jobs
import PodMesh.Rehearsal

/-!
# What becomes of a job

There is a job for each row and each column of the pods of a cluster (`getElem?_jobs`). The worker
that holds it settles it in one step (`exists_settles`): without asking anyone where the destination
counts as reached or something about the pair is unknown, and else by one question, whose answer is
judged. What is known about a pair is said here by the fields of its pods, for each kind of address
(`AtAddress`) and each source of a port (`OnPort`).
-/

namespace PodMesh

variable {σ : Type}

/-! ## What is known about a pair -/

/-- The first element of a list that has some value. -/
theorem find?_eq_iff {α β : Type} [DecidableEq β] {f : α → β} {b : β} {l : List α} {x : α} :
    l.find? (fun y => f y = b) = some x ↔
      ∃ before after, l = before ++ x :: after ∧ (∀ y ∈ before, f y ≠ b) ∧ f x = b := by
  rw [List.find?_eq_some_iff_append]
  constructor
  · rintro ⟨hx, before, after, heq, hbefore⟩
    exact ⟨before, after, heq, fun y hy => by simpa using hbefore y hy, of_decide_eq_true hx⟩
  · rintro ⟨before, after, heq, hbefore, hx⟩
    exact ⟨decide_eq_true hx, before, after, heq, fun y hy => by simpa using hbefore y hy⟩

namespace Job

variable {job : Job} {port : UInt16} {address : String} {error : ProbeError} {question : Target}

/-- The port of a job: the one of the plan, else the one of the destination's service, else the one
of its first container for the protocol. -/
inductive OnPort (job : Job) : UInt16 → Prop where
  | planned {port : UInt16} : job.plan.port = some port → job.OnPort port
  | service {port : UInt16} : job.plan.port = none → job.target.servicePort = some port →
      job.OnPort port
  | container {before after : List Container} {c : Container} :
      job.plan.port = none → job.target.servicePort = none →
      job.target.containers = before ++ c :: after →
      (∀ b ∈ before, b.protocol ≠ job.plan.protocol) → c.protocol = job.plan.protocol →
      job.OnPort c.port

/-- An address that leads to the destination of a job, by the kind of its plan. -/
inductive AtAddress (job : Job) : String → Prop where
  | pod {ip : Address} : job.plan.kind = .podIp → job.target.podIp = some ip →
      job.AtAddress ip.text
  | cluster {ip : Address} : job.plan.kind = .clusterIp → job.target.clusterIp = some ip →
      job.AtAddress ip.text
  | node {ip : Address} : job.plan.kind = .nodePort → job.target.hostIp = some ip →
      job.AtAddress ip.text
  | named {name : String} : job.plan.kind = .externalName → job.target.service = some name →
      job.AtAddress name
  | unnamed : job.plan.kind = .externalName → job.target.service = none →
      job.AtAddress (job.target.qualifiedAddress job.domain)
  | external {before after : List ExternalAddress} {e : ExternalAddress} :
      job.plan.kind = .loadBalancer → job.target.externalIps = before ++ e :: after →
      (∀ b ∈ before, b.protocol ≠ job.plan.protocol) → e.protocol = job.plan.protocol →
      job.AtAddress e.ip.text

/-- **The port of a job is looked up where it should be.** -/
theorem port?_eq_some_iff : job.port? = some port ↔ job.OnPort port := by
  unfold port? Pod.port?
  constructor
  · intro h
    cases hplan : job.plan.port with
    | some planned =>
      rw [hplan] at h
      exact .planned (hplan.trans h)
    | none =>
      cases hservice : job.target.servicePort with
      | some own =>
        rw [hplan, hservice] at h
        exact .service hplan (hservice.trans h)
      | none =>
        rw [hplan, hservice] at h
        obtain ⟨c, hc, rfl⟩ := Option.map_eq_some_iff.mp h
        obtain ⟨before, after, heq, hbefore, hprotocol⟩ := find?_eq_iff.mp hc
        exact .container hplan hservice heq hbefore hprotocol
  · intro h
    cases h with
    | planned hplan => rw [hplan]; rfl
    | service hplan hservice => rw [hplan, hservice]; rfl
    | container hplan hservice heq hbefore hprotocol =>
      rw [hplan, hservice, find?_eq_iff.mpr ⟨_, _, heq, hbefore, hprotocol⟩]
      rfl

/-- **An address of each kind is looked up where it should be.** -/
theorem resolve_eq_some_iff :
    job.plan.kind.resolve job.target job.plan.protocol job.domain = some address ↔
      job.AtAddress address := by
  constructor
  · intro h
    cases hkind : job.plan.kind with
    | podIp =>
      rw [hkind] at h
      obtain ⟨ip, hip, rfl⟩ := Option.map_eq_some_iff.mp h
      exact .pod hkind hip
    | clusterIp =>
      rw [hkind] at h
      obtain ⟨ip, hip, rfl⟩ := Option.map_eq_some_iff.mp h
      exact .cluster hkind hip
    | nodePort =>
      rw [hkind] at h
      obtain ⟨ip, hip, rfl⟩ := Option.map_eq_some_iff.mp h
      exact .node hkind hip
    | externalName =>
      rw [hkind] at h
      injection h with h
      subst h
      cases hservice : job.target.service with
      | some name => exact .named hkind hservice
      | none => exact .unnamed hkind hservice
    | loadBalancer =>
      rw [hkind] at h
      obtain ⟨e, he, rfl⟩ := Option.map_eq_some_iff.mp h
      obtain ⟨before, after, heq, hbefore, hprotocol⟩ := find?_eq_iff.mp he
      exact .external hkind heq hbefore hprotocol
  · intro h
    cases h with
    | pod hkind hip | cluster hkind hip | node hkind hip =>
      rw [hkind, AddressKind.resolve, hip]
      rfl
    | named hkind hservice | unnamed hkind hservice =>
      rw [hkind, AddressKind.resolve, hservice]
      rfl
    | external hkind heq hbefore hprotocol =>
      rw [hkind, AddressKind.resolve, find?_eq_iff.mpr ⟨_, _, heq, hbefore, hprotocol⟩]
      rfl

/-- A question is put about a job, and this one. -/
structure Asks (job : Job) (question : Target) : Prop where
  /-- The destination is not left alone. -/
  probed : job.target.skipped = false
  source : question.source = job.source.id
  /-- The question is asked from the first container. -/
  container : ∃ c rest, job.source.containers = c :: rest ∧ question.container = c.name
  address : job.AtAddress question.address
  port : job.OnPort question.port
  protocol : question.protocol = job.plan.protocol
  check : question.check = job.plan.check

/-- The first thing that is unknown about a job: the address, the container to ask from, or the
port. -/
inductive Lacks (job : Job) : ProbeError → Prop where
  | address : (∀ address, ¬ job.AtAddress address) →
      job.Lacks (.noAddress job.plan.kind job.target.id)
  | container {address : String} : job.AtAddress address → job.source.containers = [] →
      job.Lacks (.noContainers job.source.id)
  | port {address : String} : job.AtAddress address → job.source.containers ≠ [] →
      (∀ port, ¬ job.OnPort port) → job.Lacks (.noPort job.plan.protocol job.target.id)

/-- Either there is a question about a pair, or something is unknown. -/
theorem question_cases (hprobed : job.target.skipped = false) :
    (∃ error, job.question = .error error ∧ job.Lacks error) ∨
      ∃ question, job.Asks question := by
  unfold question
  cases haddress : job.plan.kind.resolve job.target job.plan.protocol job.domain with
  | none =>
    refine .inl ⟨_, rfl, .address fun address h => ?_⟩
    cases haddress.symm.trans (resolve_eq_some_iff.mpr h)
  | some address =>
    have hat := resolve_eq_some_iff.mp haddress
    cases hcontainers : job.source.containers with
    | nil =>
      have hclient : job.source.client? = none := by rw [Pod.client?, hcontainers]; rfl
      rw [hclient]
      exact .inl ⟨_, rfl, .container hat hcontainers⟩
    | cons c rest =>
      have hclient : job.source.client? = some c.name := by rw [Pod.client?, hcontainers]; rfl
      rw [hclient]
      cases hport : job.port? with
      | none =>
        refine .inl ⟨_, rfl, .port hat (by rw [hcontainers]; exact List.cons_ne_nil c rest) ?_⟩
        intro port h
        cases hport.symm.trans (port?_eq_some_iff.mpr h)
      | some port =>
        have hon := port?_eq_some_iff.mp hport
        exact .inr ⟨{ source := job.source.id, container := c.name, address, port
                      protocol := job.plan.protocol, check := job.plan.check },
          hprobed, rfl, ⟨c, rest, hcontainers, rfl⟩, hat, hon, rfl, rfl⟩

/-- What is known about a pair leaves one question. -/
theorem Asks.call_eq (h : job.Asks question) : job.call = .ask question := by
  obtain ⟨c, rest, hcontainers, hname⟩ := h.container
  have hclient : job.source.client? = some question.container := by
    rw [Pod.client?, hcontainers, hname]
    rfl
  have hquestion : job.question = .ok question := by
    unfold Job.question
    rw [resolve_eq_some_iff.mpr h.address, hclient, port?_eq_some_iff.mpr h.port]
    dsimp only
    rw [← h.source, ← h.protocol, ← h.check]
  rw [call, h.probed, hquestion]
  rfl

/-- What counts as a connection. -/
theorem judged_connected_iff {reading : Reading} : (job.judged reading).connected = true ↔
    reading.connected = true ∧ reading.error = none ∧
      (job.plan.check = .endpoint → reading.endpoint = some job.target.name) := by
  simp [judged, and_assoc, Decidable.imp_iff_not_or]

end Job

namespace World

variable {w : World σ} {prober : Prober σ} {question : Target}

theorem ask_of_reading {reading : Reading} {notices : List Notice}
    (h : (prober.ask w.memory question).1 = .reading reading notices) :
    w.ask prober question = (.reading reading notices,
      { w with
        memory := (prober.ask w.memory question).2
        journal := w.journal ++ .asked question :: notices.map .saidByWorker }) := by
  simp only [ask, h]

theorem ask_of_death (h : (prober.ask w.memory question).1 = .death) :
    w.ask prober question = (.death,
      { w with
        memory := (prober.ask w.memory question).2
        journal := w.journal ++ [.asked question] }) := by
  simp only [ask, h]
  rfl

end World

namespace Pass

variable {prober : Prober σ} {size i : Nat} {s : State σ} {job : Job} {cluster : Cluster}

/-! ## The job of a pair -/

theorem getElem?_flatMap_map {α β γ : Type} (f : α → β → γ) {l : List α} {l' : List β}
    {row column : Nat} {a : α} {b : β} (ha : l[row]? = some a) (hb : l'[column]? = some b) :
    (l.flatMap fun x => l'.map (f x))[row * l'.length + column]? = some (f a b) := by
  obtain ⟨hcolumn, _⟩ := List.getElem?_eq_some_iff.mp hb
  induction l generalizing row with
  | nil => cases ha
  | cons x l ih =>
    rw [List.flatMap_cons]
    cases row with
    | zero =>
      obtain rfl : x = a := by simpa using ha
      rw [Nat.zero_mul, Nat.zero_add, List.getElem?_append_left (by simpa using hcolumn),
        List.getElem?_map, hb]
      rfl
    | succ row =>
      -- the rows before are passed over, each as long as the others
      have hplace : (row + 1) * l'.length + column =
          (l'.map (f x)).length + (row * l'.length + column) := by
        rw [List.length_map, Nat.succ_mul]
        omega
      rw [hplace, List.getElem?_append_right (Nat.le_add_right _ _), Nat.add_sub_cancel_left]
      exact ih ha

/-- **Jobs go source by source, and for each source destination by destination.** -/
theorem getElem?_jobs (plan : Plan) {row column : Nat} {source target : Pod}
    (hsource : cluster.pods[row]? = some source) (htarget : cluster.pods[column]? = some target) :
    (jobs cluster plan)[row * cluster.pods.length + column]? =
      some { source, target, plan, domain := cluster.domain } :=
  getElem?_flatMap_map _ hsource htarget

/-! ## Settling -/

/-- What a worker comes to with a job, and what it leaves of the world. -/
inductive Settles (prober : Prober σ) (job : Job) (w : World σ) : Worker → World σ → Prop where
  /-- The destination counts as reached, whatever is unknown about the pair. Nobody is asked. -/
  | skipped : job.target.skipped = true →
      Settles prober job w
        (.carrying { job, connected := true, command := "skip", rate := none, error := none }) w
  /-- Something about the pair is unknown. Nobody is asked. -/
  | lacking {error : ProbeError} : job.target.skipped = false → job.Lacks error →
      Settles prober job w
        (.carrying { job, connected := false, command := "", rate := none, error := some error }) w
  /-- The prober is asked once. It has to find a connection and no error, and the destination
  itself has to answer where the endpoint is checked. -/
  | judged {question : Target} {reading : Reading} {notices : List Notice} {connected : Bool} :
      job.Asks question → (prober.ask w.memory question).1 = .reading reading notices →
      (connected = true ↔ reading.connected = true ∧ reading.error = none ∧
        (job.plan.check = .endpoint → reading.endpoint = some job.target.name)) →
      Settles prober job w
        (.carrying { job, connected, command := reading.command, rate := reading.rate
                     error := reading.error })
        { w with
          memory := (prober.ask w.memory question).2
          journal := w.journal ++ .asked question :: notices.map .saidByWorker }
  /-- The prober is asked once, and the worker is lost. -/
  | lost {question : Target} : job.Asks question → (prober.ask w.memory question).1 = .death →
      Settles prober job w .lost
        { w with
          memory := (prober.ask w.memory question).2
          journal := w.journal ++ [.asked question] }

section Step

variable (h : s.workers[i]? = some (.holding job))
include h

theorem step_of_skip (hcall : job.call = .skip) : s.step prober size (.worker i) =
    some { s.put i (.carrying job.skipped) with world := s.world.tick } := by
  simp only [State.step, State.stepWorker, h, hcall]
  rfl

theorem step_of_hopeless {error : ProbeError} (hcall : job.call = .hopeless error) :
    s.step prober size (.worker i) =
      some { s.put i (.carrying (job.failed error)) with world := s.world.tick } := by
  simp only [State.step, State.stepWorker, h, hcall]
  rfl

theorem step_of_reading {question : Target} {reading : Reading} {notices : List Notice}
    (hcall : job.call = .ask question)
    (hask : (prober.ask s.world.memory question).1 = .reading reading notices) :
    s.step prober size (.worker i) =
      some { s.put i (.carrying (job.judged reading)) with
        world := { s.world with
          memory := (prober.ask s.world.memory question).2
          journal := s.world.journal ++
            .asked question :: notices.map .saidByWorker : World σ }.tick } := by
  simp only [State.step, State.stepWorker, h, hcall, World.ask_of_reading hask]
  rfl

theorem step_of_death {question : Target} (hcall : job.call = .ask question)
    (hask : (prober.ask s.world.memory question).1 = .death) :
    s.step prober size (.worker i) =
      some { s.put i .lost with
        world := { s.world with
          memory := (prober.ask s.world.memory question).2
          journal := s.world.journal ++ [.asked question] : World σ }.tick } := by
  simp only [State.step, State.stepWorker, h, hcall, World.ask_of_death hask]
  rfl

end Step

/-- **A worker settles the job that it holds in one step.** -/
theorem exists_settles (prober : Prober σ) (size : Nat)
    (h : s.workers[i]? = some (.holding job)) : ∃ worker world,
      Settles prober job s.world worker world ∧
      s.step prober size (.worker i) = some { s.put i worker with world := world.tick } := by
  cases hskipped : job.target.skipped with
  | true =>
    have hcall : job.call = .skip := by rw [Job.call, hskipped]; rfl
    exact ⟨_, _, .skipped hskipped, step_of_skip h hcall⟩
  | false =>
    rcases Job.question_cases hskipped with ⟨error, herror, hlacks⟩ | ⟨question, hasks⟩
    · have hcall : job.call = .hopeless error := by rw [Job.call, hskipped, herror]; rfl
      exact ⟨_, _, .lacking hskipped hlacks, step_of_hopeless h hcall⟩
    · cases hask : (prober.ask s.world.memory question).1 with
      | reading reading notices =>
        exact ⟨_, _, .judged hasks hask Job.judged_connected_iff,
          step_of_reading h hasks.call_eq hask⟩
      | death => exact ⟨_, _, .lost hasks hask, step_of_death h hasks.call_eq hask⟩

/--
**A worker settles the job of a pair by what is known about the pair and what the prober answers.**

The job of each pair stands at the place of its row and column. A worker that holds it reports the
destination as reached if it is to be left alone. If not, and an address, a container to ask from or
a port is missing, it reports the first of these as an error. Otherwise it asks the prober once,
from the first container of the source, and judges the answer, whose command, rate and error it
passes on.
-/
theorem worker_settles_pair (prober : Prober σ) (size : Nat) {cluster : Cluster} (plan : Plan)
    {row column : Nat} {source target : Pod} (hsource : cluster.pods[row]? = some source)
    (htarget : cluster.pods[column]? = some target) :
    let job : Job := { source, target, plan, domain := cluster.domain }
    (jobs cluster plan)[row * cluster.pods.length + column]? = some job ∧
    ∀ (s : State σ) (i : Nat), s.workers[i]? = some (.holding job) → ∃ worker world,
      Settles prober job s.world worker world ∧
      s.step prober size (.worker i) = some { s.put i worker with world := world.tick } :=
  ⟨getElem?_jobs plan hsource htarget, fun _ _ h => exists_settles prober size h⟩

/-- The second of two pods answers the first, but not by its name, and so it does not count as
reached. No error is reported. -/
theorem worker_settles_pair_of_nameless_answer : ∃ job outcome world,
    (jobs twoPods { check := .endpoint })[0 * 2 + 1]? = some job ∧
    Settles Rehearsal.prober job { memory := [] } (.carrying outcome) world ∧
    outcome.connected = false ∧ outcome.error = none := by
  obtain ⟨hjob, hsettles⟩ := worker_settles_pair Rehearsal.prober 4 { check := .endpoint }
    (rfl : twoPods.pods[0]? = some _) (rfl : twoPods.pods[1]? = some _)
  obtain ⟨worker, world, h, hstep⟩ := hsettles
    { start (Pool.make Rehearsal.prober (some 1)) [] twoPodsMatrix { memory := [] } with
      workers := [.holding _] } 0 rfl
  have hworkers := congrArg (Option.map State.workers) hstep
  obtain rfl : _ = worker := by injection hworkers with hworkers; injection hworkers
  exact ⟨_, _, world, hjob, h, rfl, rfl⟩

end Pass

end PodMesh
