import PodMesh.Kubectl
import PodMesh.Proofs.Client
import PodMesh.Proofs.Pass.Settling

/-!
# What a process tells about a pair

A question is answered by a process, if there is a client command for it. The process may end well
within the limit, and then all that counts is what it printed (`Ran`). Otherwise there is one reason
why it did not (`Fails`). Exactly one of the two is the case (`ran_or_fails`, `Ran.not_fails`), and
the outcome that a worker carries is told by it in full (`Verdict`): whether the destination counts
as reached, the error, and the rate.
-/

namespace PodMesh

namespace Kubectl

variable {σ : Type}

section Process

variable (launch : Span → List String → σ → Execution × σ) (config : Config) (question : Target)
  (host : σ)

/-- What comes of the process for a question with a client command. -/
def execution (client : List String) : Execution :=
  (launch config.limit (config.invocation question client) host).1

/-- There is a client command, and its process ends well within the limit, having printed
`stdout`. -/
def Ran (stdout : List UInt8) : Prop :=
  ∃ client status stderr, question.client = .ok client ∧
    execution launch config question host client = .ended status stdout stderr ∧
    status = .code 0

/-- Why no process ends well within the limit. -/
inductive Fails : ProbeError → Prop where
  /-- There is no client command. -/
  | unsupported : question.check = .endpoint → question.protocol ≠ .tcp →
      Fails (.unsupported question.protocol .endpoint)
  | notStarted {client : List String} {reason : String} : question.client = .ok client →
      execution launch config question host client = .notStarted reason →
      Fails (.notStarted reason)
  | overdue {client : List String} : question.client = .ok client →
      execution launch config question host client = .overdue → Fails (.overdue config.limit)
  | unsuccessful {client : List String} {status : ExitStatus} {stdout stderr : List UInt8} :
      question.client = .ok client →
      execution launch config question host client = .ended status stdout stderr →
      status ≠ .code 0 → Fails (.unsuccessful status (trimmed stdout) (trimmed stderr))

/-- The reading of a question. -/
def reading : Reading := (probe launch config question host).1.1

end Process

variable {launch : Span → List String → σ → Execution × σ} {config : Config} {question : Target}
  {host : σ} {stdout stdout' : List UInt8} {error : ProbeError}

/-- **A process ends well, or there is a reason why not.** -/
theorem ran_or_fails (launch : Span → List String → σ → Execution × σ) (config : Config)
    (question : Target) (host : σ) :
    (∃ stdout, Ran launch config question host stdout) ∨
      ∃ error, Fails launch config question host error := by
  by_cases h : question.check = .endpoint → question.protocol = .tcp
  · obtain ⟨client, hclient⟩ := Target.exists_client h
    cases hexecution : execution launch config question host client with
    | notStarted reason => exact .inr ⟨_, .notStarted hclient hexecution⟩
    | overdue => exact .inr ⟨_, .overdue hclient hexecution⟩
    | ended status stdout stderr =>
      by_cases hstatus : status = .code 0
      · exact .inl ⟨stdout, client, status, stderr, hclient, hexecution, hstatus⟩
      · exact .inr ⟨_, .unsuccessful hclient hexecution hstatus⟩
  · exact .inr ⟨_, .unsupported (Classical.not_imp.mp h).1 (Classical.not_imp.mp h).2⟩

theorem Ran.unique (h : Ran launch config question host stdout)
    (h' : Ran launch config question host stdout') : stdout = stdout' := by
  obtain ⟨client, status, stderr, hclient, hexecution, -⟩ := h
  obtain ⟨client', status', stderr', hclient', hexecution', -⟩ := h'
  obtain rfl := Except.ok.inj (hclient.symm.trans hclient')
  exact (Execution.ended.inj (hexecution.symm.trans hexecution')).2.1

/-- What holds of some output holds of the output there is. -/
theorem Ran.exists_iff {P : List UInt8 → Prop} (h : Ran launch config question host stdout) :
    (∃ stdout', Ran launch config question host stdout' ∧ P stdout') ↔ P stdout :=
  ⟨fun ⟨_, h', hp⟩ => h.unique h' ▸ hp, fun hp => ⟨stdout, h, hp⟩⟩

/-! ## Readings -/

theorem reading_of_client {client : List String} (h : question.client = .ok client) :
    reading launch config question host = (read config question (question.reproduction client)
      (execution launch config question host client)).1 := by
  unfold reading probe execution
  rw [h]

/-- **What a process prints is read by what was checked.** -/
theorem Ran.reading_eq (h : Ran launch config question host stdout) :
    ∃ command, reading launch config question host =
      { connected := true
        command
        endpoint := if question.check = .endpoint then some (trimmed stdout) else none
        rate := if question.check = .bandwidth then (Rate.ofReport (Text.lossy stdout)).toOption
          else none } := by
  obtain ⟨client, status, stderr, hclient, hexecution, rfl⟩ := h
  refine ⟨question.reproduction client, ?_⟩
  rw [reading_of_client hclient, hexecution, read, judge]
  cases question.check with
  | connect => rfl
  | endpoint => rfl
  | bandwidth => cases Rate.ofReport (Text.lossy stdout) <;> rfl

/-- **A reason is reported, and nothing but it.** -/
theorem Fails.reading_eq (h : Fails launch config question host error) :
    ∃ command, reading launch config question host = { command, error := some error } := by
  cases h with
  | unsupported hcheck hprotocol =>
    refine ⟨"", ?_⟩
    unfold reading probe
    rw [Target.client_eq_error hcheck hprotocol]
  | notStarted hclient hexecution | overdue hclient hexecution =>
    exact ⟨_, by rw [reading_of_client hclient, hexecution]; rfl⟩
  | @unsuccessful client status stdout stderr hclient hexecution hstatus =>
    have hbad : (!status.isSuccess) = true := by simpa [ExitStatus.isSuccess] using hstatus
    exact ⟨_, by rw [reading_of_client hclient, hexecution, read, judge, if_pos hbad]⟩

theorem Ran.not_fails (h : Ran launch config question host stdout) :
    ¬ Fails launch config question host error := by
  intro hfails
  obtain ⟨command, hreading⟩ := h.reading_eq
  obtain ⟨command', hreading'⟩ := hfails.reading_eq
  cases congrArg Reading.error (hreading.symm.trans hreading')

theorem Fails.unique {error' : ProbeError} (h : Fails launch config question host error)
    (h' : Fails launch config question host error') : error = error' := by
  obtain ⟨command, hreading⟩ := h.reading_eq
  obtain ⟨command', hreading'⟩ := h'.reading_eq
  injection congrArg Reading.error (hreading.symm.trans hreading')

/-! ## Verdicts -/

/-- The outcome `o` is the one that the process for a question calls for. -/
structure Verdict (launch : Span → List String → σ → Execution × σ) (config : Config)
    (question : Target) (host : σ) (o : Outcome) : Prop where
  /-- It takes a process that ends well, and one that prints just the name of the destination where
  the endpoint is checked. -/
  connected_iff : o.connected = true ↔ ∃ stdout, Ran launch config question host stdout ∧
    (question.check = .endpoint → trimmed stdout = o.job.target.name)
  /-- The error says why no process ended well. -/
  error_eq_some_iff : ∀ error, o.error = some error ↔ Fails launch config question host error
  error_eq_none_iff : o.error = none ↔ ∃ stdout, Ran launch config question host stdout
  /-- The rate is the one that the output reports. -/
  rate_eq_some_iff : ∀ rate, o.rate = some rate ↔
    ∃ stdout, Ran launch config question host stdout ∧ question.check = .bandwidth ∧
      Rate.ofReport (Text.lossy stdout) = .ok rate
  /-- A report that cannot be read leaves the connection, and is no error. -/
  connected_of_unread : ∀ stdout fault, Ran launch config question host stdout →
    question.check = .bandwidth → Rate.ofReport (Text.lossy stdout) = .error fault →
    o.connected = true ∧ o.error = none ∧ o.rate = none

variable {job : Job}

theorem Ran.verdict (h : Ran launch config question host stdout)
    (hcheck : question.check = job.plan.check) :
    Verdict launch config question host (job.judged (reading launch config question host)) := by
  obtain ⟨command, hreading⟩ := h.reading_eq
  rw [hreading]
  constructor
  case connected_iff =>
    rw [Job.judged_connected_iff, h.exists_iff, ← hcheck]
    refine ⟨fun ⟨_, _, hname⟩ hendpoint => ?_, fun hname => ⟨rfl, rfl, fun hendpoint => ?_⟩⟩
    · exact Option.some.inj ((if_pos hendpoint).symm.trans (hname hendpoint))
    · exact (if_pos hendpoint).trans (congrArg some (hname hendpoint))
  case error_eq_some_iff =>
    intro error
    exact ⟨fun h => (nomatch h), fun hfails => absurd hfails h.not_fails⟩
  case error_eq_none_iff => exact ⟨fun _ => ⟨stdout, h⟩, fun _ => rfl⟩
  case rate_eq_some_iff =>
    intro rate
    rw [h.exists_iff]
    dsimp only [Job.judged]
    rw [Option.ite_none_right_eq_some]
    cases Rate.ofReport (Text.lossy stdout) <;> simp [Except.toOption]
  case connected_of_unread =>
    intro stdout' fault h' hbandwidth hfault
    obtain rfl := h.unique h'
    -- the endpoint is not checked together with the bandwidth, so the output may be anything
    refine ⟨Job.judged_connected_iff.mpr ⟨rfl, rfl, fun hendpoint => ?_⟩, rfl, ?_⟩
    · cases (hcheck.trans hendpoint).symm.trans hbandwidth
    · dsimp only [Job.judged]
      rw [if_pos hbandwidth, hfault]
      rfl

theorem Fails.verdict (h : Fails launch config question host error) :
    Verdict launch config question host (job.judged (reading launch config question host)) := by
  obtain ⟨command, hreading⟩ := h.reading_eq
  rw [hreading]
  constructor
  case connected_iff =>
    exact ⟨fun h => (nomatch h), fun ⟨stdout, hran, _⟩ => absurd h hran.not_fails⟩
  case error_eq_some_iff =>
    intro error'
    exact ⟨fun h' => Option.some.inj h' ▸ h, fun h' => congrArg some (h.unique h')⟩
  case error_eq_none_iff =>
    exact ⟨fun h => (nomatch h), fun ⟨stdout, hran⟩ => absurd h hran.not_fails⟩
  case rate_eq_some_iff =>
    intro rate
    exact ⟨fun h => (nomatch h), fun ⟨stdout, hran, _⟩ => absurd h hran.not_fails⟩
  case connected_of_unread =>
    intro stdout fault hran
    exact absurd h hran.not_fails

/--
**A worker reports what the process for the question about a pair comes to.**

A pair that is to be probed, with an address, a container to ask from and a port, leaves one
question. The destination counts as reached just if the process for it ends well, and also prints
the name of the destination where the endpoint is checked. There is an error just if no process ends
well, and a rate just if one does whose output, asked for the bandwidth, reports that rate.
-/
theorem worker_judges_process (launch : Span → List String → σ → Execution × σ) (config : Config)
    (size : Nat) {s : Pass.State σ} {i : Nat} {job : Job} {address : String} {port : UInt16}
    {container : Container} {rest : List Container}
    (hworker : s.workers[i]? = some (.holding job)) (hprobed : job.target.skipped = false)
    (haddress : job.AtAddress address) (hcontainers : job.source.containers = container :: rest)
    (hport : job.OnPort port) :
    let question : Target := { source := job.source.id, container := container.name, address, port
                               protocol := job.plan.protocol, check := job.plan.check }
    ∃ o, o.job = job ∧ Verdict launch config question s.world.memory o ∧
      s.step (prober launch config) size (.worker i) =
        some { s.put i (.carrying o) with
          world := (s.world.ask (prober launch config) question).2.tick } := by
  intro question
  have hasks : job.Asks question :=
    ⟨hprobed, rfl, ⟨container, rest, hcontainers, rfl⟩, haddress, hport, rfl, rfl⟩
  refine ⟨job.judged (reading launch config question s.world.memory), rfl, ?_,
    Pass.step_of_reading hworker hasks.call_eq rfl⟩
  rcases ran_or_fails launch config question s.world.memory with ⟨stdout, h⟩ | ⟨error, h⟩
  · exact h.verdict rfl
  · exact h.verdict

/-- A host on which every process ends well and prints the same. -/
def echoing (stdout : List UInt8) : Span → List String → Unit → Execution × Unit :=
  fun _ _ host => (.ended (.code 0) stdout [], host)

/-- The second of two pods tells its name with blanks around it, and counts as reached. -/
theorem worker_judges_process_of_padded_name :
    let job := (Pass.jobs Pass.twoPods { check := .endpoint }).get ⟨1, by decide⟩
    let config : Config := ⟨"kubectl", [], none, ⟨5000⟩⟩
    ∃ question outcome, outcome.job = job ∧
      Verdict (echoing [32, 98, 10]) config question () outcome ∧
      outcome.connected = true ∧ outcome.error = none := by
  intro job config
  let s : Pass.State Unit := {
    main := .receiving 0, unsent := [], queue := [], workers := [.holding job], results := []
    matrix := Pass.twoPodsMatrix, world := { memory := () } }
  have haddress : job.AtAddress "10.0.0.2" := Job.resolve_eq_some_iff.mp (by decide)
  have hport : job.OnPort 80 := Job.port?_eq_some_iff.mp (by decide)
  obtain ⟨outcome, hjob, hverdict, -⟩ := worker_judges_process (echoing [32, 98, 10]) config 4
    (rfl : s.workers[0]? = _) rfl haddress rfl hport
  have hconnected := hverdict.connected_iff.mpr
    ⟨[32, 98, 10], ⟨_, _, _, rfl, rfl, rfl⟩, fun _ => by rw [hjob]; decide⟩
  have herror := hverdict.error_eq_none_iff.mpr ⟨[32, 98, 10], _, _, _, rfl, rfl, rfl⟩
  exact ⟨_, outcome, hjob, hverdict, hconnected, herror⟩

end Kubectl

end PodMesh
