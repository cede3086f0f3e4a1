import PodMesh.CommandLine.Matches
import PodMesh.Inquiry
import PodMesh.Word

/-!
# Settings

The parameters of the program, and the settings that a command line gives for a check.
-/

namespace PodMesh.CommandLine

/-- The name of the program. -/
def programName : String := "reachable"

/-- The version of the program. -/
def programVersion : String := "0.0.3"

/-- What the program does, in a few words. -/
def purpose : String := "verify pod to pod reachability through Kubernetes services"

/-- The parameters of the program. -/
def parameters : List Parameter :=
  [{ name := "model", short := some 'm', values := ["FILE"], required := true
     help := "JSON pod model" },
    { name := "service", short := some 's', values := ["KIND"], default := some "pod"
      choices := some ["pod", "podip", "clusterip", "clustername", "nodeport", "externalname",
        "lb", "loadbalancer"]
      help := "address kind probed" },
    { name := "protocol", short := some 'p', values := ["PROTOCOL"], default := some "TCP"
      help := "TCP, UDP or SCTP" },
    { name := "port", values := ["PORT"]
      help := "destination port, defaults to each pod's service port" },
    { name := "check", short := some 'c', values := ["CHECK"], default := some "connect"
      choices := some ["connect", "endpoint", "bandwidth"], help := "probe kind" },
    { name := "default", values := ["POLICY"], default := some "allow"
      choices := some ["allow", "deny"], help := "expectation for pairs no rule matches" },
    { name := "allow", values := ["FROM", "TO"], repeatable := true
      help := "expect FROM to reach TO, peers are *, ns, ns/*, */pod or ns/pod" },
    { name := "deny", values := ["FROM", "TO"], repeatable := true
      help := "expect FROM not to reach TO, applied after allow rules" },
    { name := "loopback", help := "count pod to itself results" },
    { name := "exclude", short := some 'x', values := ["REGEX"]
      help := "skip probing destinations matching ns/name" },
    { name := "workers", short := some 'w', values := ["N"], default := some "3"
      help := "concurrent probes" },
    { name := "timeout", short := some 't', values := ["SECS"], default := some "10"
      help := "per-probe deadline" },
    { name := "kubectl", values := ["COMMAND"], default := some "kubectl"
      help := "kubectl command line" },
    { name := "context", values := ["CONTEXT"], help := "kubeconfig context" },
    { name := "wait", help := "wait for all servers to answer before validating" },
    { name := "wait-tries", values := ["N"], default := some "10"
      help := "readiness rounds before giving up" },
    { name := "wait-interval", values := ["SECS"], default := some "5"
      help := "pause between readiness rounds" },
    { name := "verbose", short := some 'v', repeatable := true, help := "verbose output" }]

/-- What a check is to be made of, and how. -/
structure Settings where
  model : String
  inquiry : Inquiry
  /-- The pattern of the pods to leave alone. -/
  excluded : Option String
  workers : Nat
  /-- The words in front of every client command. -/
  kubectl : List String
  context : Option String
  limit : Span
  /-- The least that is said: notices of this level and of those that matter more. -/
  level : Level
  deriving DecidableEq, Repr

/-- Why the values of a command line give no settings. -/
inductive SettingFault where
  | value (fault : Fault)
  | rule (fault : PodMesh.Fault)
  deriving DecidableEq, Repr

def SettingFault.message : SettingFault → String
  | .value fault => fault.message
  | .rule fault => fault.message

namespace Settings

/-- A value that may be missing, as the thing it stands for. -/
def optional {α : Type} (read : String → Option α) : Option String → Except Fault (Option α)
  | none => .ok none
  | some value =>
    match read value with
    | some a => .ok (some a)
    | none => .error (.meaningless value)

/-- The number in a value. -/
def number (value : String) : Except Fault Nat :=
  match naturalBelow? (Nat.pow 2 64) value with
  | some n => .ok n
  | none => .error (.noNumber value)

/-- The rules in a list of values, two for each. -/
def rules : List String → Except SettingFault (List Rule)
  | [] => .ok []
  | [side] => .error (.value (.halfRule side))
  | source :: target :: rest => do
    let peer (word : String) : Except SettingFault Peer := (Peer.read word).mapError .rule
    let source ← peer source
    let target ← peer target
    return ⟨source, target⟩ :: (← rules rest)

/-- The level that is shown after so many wishes for more. -/
def levelFor : Nat → Level
  | 0 => .info
  | 1 => .debug
  | _ => .trace

/-- The settings that the values of a command line give. Of several faults the one whose parameter
comes first is reported. -/
def ofMatches (m : Matches) : Except SettingFault Settings := do
  let thing {α : Type} (name : String) (read : String → Option α) :
      Except SettingFault (Option α) := (optional read (m.value? name)).mapError .value
  let count (name : String) : Except SettingFault Nat :=
    (number ((m.value? name).getD "")).mapError .value
  let kind ← thing "service" AddressKind.ofText?
  let protocol ← thing "protocol" Protocol.ofText?
  let port ← thing "port" port?
  let check ← thing "check" Check.ofText?
  let allow ← rules (m.get "allow").values
  let deny ← rules (m.get "deny").values
  let workers ← count "workers"
  let timeout ← count "timeout"
  let tries ← count "wait-tries"
  let _ ← count "wait-interval"
  return {
    model := (m.value? "model").getD ""
    inquiry := {
      policy := { default := m.value? "default" ≠ some "deny", allow, deny }
      plan := {
        port
        protocol := protocol.getD .tcp
        kind := kind.getD .podIp
        check := check.getD .connect
        ignoreLoopback := !m.isPresent "loopback" }
      tries := if m.isPresent "wait" then some tries else none }
    excluded := m.value? "exclude"
    workers
    kubectl := (Text.words ((m.value? "kubectl").getD "").toList).map String.ofList
    context := m.value? "context"
    limit := .ofSeconds timeout
    level := levelFor (m.get "verbose").occurrences }

end Settings

end PodMesh.CommandLine
