import PodMesh.Proofs.Kubectl

/-!
# Command lines that repeat a probe

With every probe that has a client command goes a command line for repeating it by hand. It holds
its words with one space between any two, and where none of them has spaces it falls into them again
(`words_reproduction`). They are `kubectl` and what is given to it for the target, whatever was
configured. So the command line names the process that was started just if that was `kubectl` alone
and no context was selected (`reproduces_iff`). A context that was selected is missing from it, and
then it asks whatever cluster is selected by default (`reproduction_leaves_out_context`).
-/

namespace PodMesh

/-- The words of a command line, which single spaces separate. -/
def Text.commandWords (line : String) : List String :=
  (Text.splitOn ' ' line.toList).map String.ofList

/-- Words without spaces can be read back from the command line of them. -/
theorem Text.commandWords_intercalate {word : String} {words : List String}
    (h : ∀ w ∈ word :: words, ' ' ∉ w.toList) :
    commandWords (" ".intercalate (word :: words)) = word :: words := by
  have hspace : " ".toList = [' '] := rfl
  have hclear : ∀ part ∈ (word :: words).map String.toList, ' ' ∉ part := by
    intro part hpart
    obtain ⟨w, hw, rfl⟩ := List.mem_map.mp hpart
    exact h w hw
  rw [commandWords, String.toList_intercalate, hspace, splitOn_eq,
    List.splitOn_intercalate ' ' hclear (by simp), List.map_map]
  simp [Function.comp_def, String.ofList_toList]

namespace Target

variable {t : Target} {client : List String} {host : String} {port : UInt16}

/-- Nothing in a target that goes into its command line has a space. -/
structure Unspaced (t : Target) : Prop where
  name : ' ' ∉ t.source.name.toList
  ns : ' ' ∉ t.source.ns.toList
  container : ' ' ∉ t.container.toList
  address : ' ' ∉ t.address.toList

theorem space_not_mem_decimal (n : Nat) : ' ' ∉ (decimal n).toList := not_mem_decimal (by decide)

theorem space_not_mem_hostPort (h : ' ' ∉ host.toList) (port : UInt16) :
    ' ' ∉ (hostPort host port).toList := by
  have hport := space_not_mem_decimal port.toNat
  rw [toList_hostPort, bracketed]
  split
  · simp [h, hport]
  · simp [h, hport]

/-- The words of a client command have no spaces if the address has none. -/
theorem Unspaced.not_mem_client (h : t.Unspaced) (hclient : t.client = .ok client) :
    ∀ word ∈ client, ' ' ∉ word.toList := by
  have hhost := space_not_mem_hostPort h.address t.port
  have hport := space_not_mem_decimal t.port.toNat
  cases hcheck : t.check with
  | connect =>
    have hlower : ' ' ∉ t.protocol.lower.toList := by cases t.protocol <;> decide
    rw [client_connect hcheck] at hclient
    obtain rfl := Except.ok.inj hclient
    simp [hhost, hlower]
  | endpoint =>
    rw [client_endpoint hcheck (protocol_of_client hclient hcheck)] at hclient
    obtain rfl := Except.ok.inj hclient
    simp [hhost]
  | bandwidth =>
    have hoption : ∀ word ∈ rateOption t.protocol, ' ' ∉ word.toList := by
      cases t.protocol <;> decide
    rw [client_bandwidth hcheck] at hclient
    obtain rfl := Except.ok.inj hclient
    simpa [h.address, hport, or_imp, forall_and] using hoption

/-- **The command line of a target falls into `kubectl` and what is given to it.** -/
theorem Unspaced.words_reproduction (h : t.Unspaced) (hclient : t.client = .ok client) :
    Text.commandWords (t.reproduction client) = "kubectl" :: t.exec client := by
  refine Text.commandWords_intercalate ?_
  have hwords := h.not_mem_client hclient
  simpa [exec, h.name, h.ns, h.container, or_imp, forall_and] using hwords

end Target

namespace Kubectl

variable {σ : Type} {config : Config} {question : Target} {client : List String}

/-- A reading tells the command line that it was made with, whatever came of the process. -/
theorem read_command (config : Config) (question : Target) (command : String)
    (execution : Execution) : (read config question command execution).1.command = command := by
  cases execution with
  | notStarted reason => rfl
  | overdue => rfl
  | ended status stdout stderr =>
    rw [read, judge]
    split
    · rfl
    · cases question.check with
      | connect => rfl
      | endpoint => rfl
      | bandwidth => cases Rate.ofReport (Text.lossy stdout) <;> rfl

/-- Nothing stands before what is given for the target just if there is nothing but `kubectl`. -/
theorem invocation_eq_iff : "kubectl" :: question.exec client = config.invocation question client ↔
    config.program = "kubectl" ∧ config.arguments = [] ∧ config.context = none := by
  -- both end in the words for the target, so nothing may stand between them and the program
  obtain ⟨program, arguments, context, limit⟩ := config
  simp only [Config.invocation, List.cons_append, List.cons.injEq, List.self_eq_append_left,
    List.append_eq_nil_iff]
  refine and_congr eq_comm (and_congr_right fun _ => ?_)
  cases context with
  | none => simp
  | some context => simp

/--
**The command line of a probe repeats it just if `kubectl` alone is configured and no context.**

This is so for every question with a client command whose source, container and address have no
spaces, whatever comes of the process.
-/
theorem reproduces_iff (launch : Span → List String → σ → Execution × σ) (host : σ)
    (hclient : question.client = .ok client) (h : question.Unspaced) :
    Text.commandWords (reading launch config question host).command =
        config.invocation question client ↔
      config.program = "kubectl" ∧ config.arguments = [] ∧ config.context = none := by
  rw [reading_of_client hclient, read_command, h.words_reproduction hclient, invocation_eq_iff]

/-- Of two clusters the second is asked, but its context is not in the command line. -/
theorem reproduction_leaves_out_context :
    let config : Config := ⟨"kubectl", [], some "second", ⟨5000⟩⟩
    let question : Target := { source := ⟨"x", "a"⟩, container := "cont-80-tcp"
                               address := "10.0.0.2", protocol := .tcp, port := 80
                               check := .connect }
    ∃ client, question.client = .ok client ∧ question.Unspaced ∧
      config.invocation question client = ["kubectl", "--context", "second", "exec", "a", "-c",
        "cont-80-tcp", "-n", "x", "--", "/agnhost", "connect", "10.0.0.2:80", "--timeout=5s",
        "--protocol=tcp"] ∧
      Text.commandWords (reading (echoing []) config question ()).command = ["kubectl", "exec", "a",
        "-c", "cont-80-tcp", "-n", "x", "--", "/agnhost", "connect", "10.0.0.2:80", "--timeout=5s",
        "--protocol=tcp"] := by
  intro config question
  have hunspaced : question.Unspaced := ⟨by decide, by decide, by decide, by decide⟩
  refine ⟨_, rfl, hunspaced, by decide, ?_⟩
  rw [reading_of_client rfl, read_command, hunspaced.words_reproduction rfl]
  decide

end Kubectl

end PodMesh
