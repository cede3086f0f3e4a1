import PodMesh.Client
import PodMesh.Proofs.Numerals
import PodMesh.Proofs.Text.Separated

/-!
# Client commands told apart

A client command is made for every question but those that check the endpoint over another protocol
than TCP, and it tells the question in full (`Target.client_tells_question`). Its first word says
which check is made. A host and a port are in one word, where the port stands behind the last colon,
because digits have none, and the brackets around a host are those that were added just if there is
a colon between them (`hostPort_inj`).
-/

namespace PodMesh

/-! ## Hosts and ports -/

section HostPort

variable {host host' : String} {port port' : UInt16} {cs cs' : List Char}

/-- A host with colons of its own is put in brackets. -/
def bracketed (cs : List Char) : List Char := if ':' ∈ cs then '[' :: (cs ++ [']']) else cs

theorem toList_hostPort (host : String) (port : UInt16) : (hostPort host port).toList =
    bracketed host.toList ++ ':' :: (decimal port.toNat).toList := by
  unfold hostPort bracketed
  split
  · simp
  · simp

/-- Brackets that were added are told from a host's own by the colon in them. -/
theorem bracketed_inj : bracketed cs = bracketed cs' ↔ cs = cs' := by
  -- what is put in brackets keeps its colon, what is left as it is has none
  have hbrackets : ∀ {cs cs' : List Char}, ':' ∈ cs → ':' ∉ cs' → '[' :: (cs ++ [']']) ≠ cs' := by
    rintro cs _ h h' rfl
    exact h' (List.mem_cons_of_mem _ (List.mem_append_left _ h))
  unfold bracketed
  by_cases h : ':' ∈ cs
  · by_cases h' : ':' ∈ cs'
    · rw [if_pos h, if_pos h', List.cons_inj_right, List.append_left_inj]
    · rw [if_pos h, if_neg h']
      exact iff_of_false (hbrackets h h') fun heq => h' (heq ▸ h)
  · by_cases h' : ':' ∈ cs'
    · rw [if_neg h, if_pos h']
      exact iff_of_false (hbrackets h' h).symm fun heq => h (heq ▸ h')
    · rw [if_neg h, if_neg h']

/-- **A host and a port are told from each other in one word, colons and brackets or not.** -/
theorem hostPort_inj : hostPort host port = hostPort host' port' ↔ host = host' ∧ port = port' := by
  have hcolon : ∀ n, ':' ∉ (decimal n).toList := fun n => not_mem_decimal (by decide)
  rw [← String.toList_inj, toList_hostPort, toList_hostPort,
    Text.last_inj (hcolon _) (hcolon _), bracketed_inj, String.toList_inj, String.toList_inj,
    decimal_inj, UInt16.toNat_inj]

example : hostPort "::1" 80 = "[::1]:80" ∧ hostPort "[::1]" 80 = "[[::1]]:80" ∧
    hostPort "x.y" 80 = "x.y:80" := by decide

end HostPort

/-! ## Commands -/

namespace Target

variable {a b t : Target} {client : List String} {error : ProbeError}

theorem client_connect (h : t.check = .connect) : t.client =
    .ok ["/agnhost", "connect", hostPort t.address t.port, "--timeout=5s",
      "--protocol=" ++ t.protocol.lower] := by
  unfold Target.client
  rw [h]

theorem client_endpoint (h : t.check = .endpoint) (hprotocol : t.protocol = .tcp) : t.client =
    .ok ["/usr/bin/curl", "-g", "-q", "-s", "telnet://" ++ hostPort t.address t.port] := by
  unfold Target.client
  rw [h, hprotocol]

theorem client_bandwidth (h : t.check = .bandwidth) : t.client =
    .ok (["/usr/bin/iperf", "--client", t.address, "--port", decimal t.port.toNat] ++
      rateOption t.protocol ++ ["-yC"]) := by
  unfold Target.client
  rw [h]

theorem client_eq_error (hcheck : t.check = .endpoint) (hprotocol : t.protocol ≠ .tcp) :
    t.client = .error (.unsupported t.protocol .endpoint) := by
  unfold Target.client
  rw [hcheck]
  cases h : t.protocol with
  | tcp => exact absurd h hprotocol
  | udp => rfl
  | sctp => rfl

/-- There is a client command for every question but those that check the endpoint over another
protocol than TCP. -/
theorem exists_client (h : t.check = .endpoint → t.protocol = .tcp) :
    ∃ client, t.client = .ok client := by
  cases hcheck : t.check with
  | connect => exact ⟨_, client_connect hcheck⟩
  | endpoint => exact ⟨_, client_endpoint hcheck (h hcheck)⟩
  | bandwidth => exact ⟨_, client_bandwidth hcheck⟩

theorem client_eq_error_iff : t.client = .error error ↔
    (t.check = .endpoint ∧ t.protocol ≠ .tcp) ∧ error = .unsupported t.protocol .endpoint := by
  by_cases h : t.check = .endpoint → t.protocol = .tcp
  · obtain ⟨client, hclient⟩ := exists_client h
    rw [hclient]
    exact iff_of_false nofun fun hno => hno.1.2 (h hno.1.1)
  · obtain ⟨hcheck, hprotocol⟩ := Classical.not_imp.mp h
    rw [client_eq_error hcheck hprotocol, Except.error.injEq, eq_comm]
    exact (and_iff_right ⟨hcheck, hprotocol⟩).symm

theorem protocol_of_client (h : t.client = .ok client) (hcheck : t.check = .endpoint) :
    t.protocol = .tcp := by
  by_contra hprotocol
  rw [client_eq_error hcheck hprotocol] at h
  cases h

/-! ### What a command tells -/

/-- The program that makes a check. -/
def program : Check → String
  | .connect => "/agnhost"
  | .endpoint => "/usr/bin/curl"
  | .bandwidth => "/usr/bin/iperf"

theorem program_inj {check check' : Check} (h : program check = program check') :
    check = check' := by
  revert h
  cases check <;> cases check' <;> decide

theorem head?_client (h : t.client = .ok client) : client.head? = some (program t.check) := by
  cases hcheck : t.check with
  | connect =>
    rw [client_connect hcheck] at h
    rw [← Except.ok.inj h]
    rfl
  | endpoint =>
    rw [client_endpoint hcheck (protocol_of_client h hcheck)] at h
    rw [← Except.ok.inj h]
    rfl
  | bandwidth =>
    rw [client_bandwidth hcheck] at h
    rw [← Except.ok.inj h]
    rfl

/-- A protocol is told by its name, and by the option for it. -/
theorem lower_inj {p p' : Protocol} (h : p.lower = p'.lower) : p = p' := by
  revert h
  cases p <;> cases p' <;> decide

theorem rateOption_inj {p p' : Protocol} (h : rateOption p = rateOption p') : p = p' := by
  revert h
  cases p <;> cases p' <;> decide

/-- **A client command tells the host, the port, the protocol and the check.** -/
theorem client_inj (h : a.client = .ok client) (h' : b.client = .ok client) :
    a.address = b.address ∧ a.port = b.port ∧ a.protocol = b.protocol ∧ a.check = b.check := by
  have hcheck : b.check = a.check :=
    program_inj (Option.some.inj ((head?_client h').symm.trans (head?_client h)))
  have hclient := h.trans h'.symm
  cases ha : a.check with
  | connect =>
    rw [client_connect ha, client_connect (hcheck.trans ha), Except.ok.injEq] at hclient
    simp only [List.cons.injEq, and_true, true_and, String.append_right_inj] at hclient
    obtain ⟨haddress, hport⟩ := hostPort_inj.mp hclient.1
    exact ⟨haddress, hport, lower_inj hclient.2, (hcheck.trans ha).symm⟩
  | endpoint =>
    -- the protocol is in no word, but no other has a command
    have hpa := protocol_of_client h ha
    have hpb := protocol_of_client h' (hcheck.trans ha)
    rw [client_endpoint ha hpa, client_endpoint (hcheck.trans ha) hpb, Except.ok.injEq] at hclient
    simp only [List.cons.injEq, and_true, true_and, String.append_right_inj] at hclient
    obtain ⟨haddress, hport⟩ := hostPort_inj.mp hclient
    exact ⟨haddress, hport, hpa.trans hpb.symm, (hcheck.trans ha).symm⟩
  | bandwidth =>
    rw [client_bandwidth ha, client_bandwidth (hcheck.trans ha), Except.ok.injEq] at hclient
    have hwords := List.append_cancel_right hclient
    simp only [List.cons_append, List.nil_append, List.cons.injEq, true_and] at hwords
    obtain ⟨haddress, hport, hoption⟩ := hwords
    exact ⟨haddress, UInt16.toNat_inj.mp (decimal_inj.mp hport), rateOption_inj hoption,
      (hcheck.trans ha).symm⟩

/--
**A client command tells the question.**

There is none just where the endpoint is to be checked over another protocol than TCP, and that is
the reason given. Two questions that have commands have the same one just if they are about the same
host, port, protocol and check, however the hosts are written.
-/
theorem client_tells_question (a b : Target) :
    (∀ error, a.client = .error error ↔
      (a.check = .endpoint ∧ a.protocol ≠ .tcp) ∧ error = .unsupported a.protocol .endpoint) ∧
    ((∃ client, a.client = .ok client ∧ b.client = .ok client) ↔
      (a.address = b.address ∧ a.port = b.port ∧ a.protocol = b.protocol ∧ a.check = b.check) ∧
        ¬ (a.check = .endpoint ∧ a.protocol ≠ .tcp)) := by
  refine ⟨fun error => client_eq_error_iff, ?_, ?_⟩
  · rintro ⟨client, h, h'⟩
    exact ⟨client_inj h h', fun hno => hno.2 (protocol_of_client h hno.1)⟩
  · rintro ⟨⟨haddress, hport, hprotocol, hcheck⟩, hmade⟩
    obtain ⟨client, h⟩ := exists_client fun ht => by_contra fun hno => hmade ⟨ht, hno⟩
    refine ⟨client, h, ?_⟩
    rw [← h]
    unfold Target.client
    rw [haddress, hport, hprotocol, hcheck]

end Target

end PodMesh
