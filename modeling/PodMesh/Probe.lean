import PodMesh.AddressKind
import PodMesh.Rate

/-!
# Probes

What a probe is asked and what it answers: one attempt to reach one address from inside
one pod.
-/

namespace PodMesh

/-- What a probe finds out: whether a connection opens, which pod answers, or how fast data
flows. -/
inductive Check where
  | connect
  | endpoint
  | bandwidth
  deriving DecidableEq, Repr

namespace Check

def all : List Check := [.connect, .endpoint, .bandwidth]

def text : Check → String
  | .connect => "connect"
  | .endpoint => "endpoint"
  | .bandwidth => "bandwidth"

/-- The name as a title. -/
def title : Check → String
  | .connect => "Connect"
  | .endpoint => "Endpoint"
  | .bandwidth => "Bandwidth"

/-- The check of a name, which must be in lower case. -/
def ofText? (s : String) : Option Check := all.find? fun c => s = c.text

end Check

/-- What a prober is asked: to reach an address and port from a container of a pod. -/
structure Target where
  source : Identity
  container : String
  address : String
  protocol : Protocol
  port : UInt16
  check : Check
  deriving DecidableEq, Repr

/-- A span of time in milliseconds. -/
structure Span where
  millis : Nat
  deriving DecidableEq, Repr

namespace Span

def ofSeconds (n : Nat) : Span := ⟨n * 1000⟩

/-- The decimals of a fraction of a thousand, without zeros at the end. -/
def fraction (n : Nat) : String :=
  let ds := Nat.toDigits 10 n
  let padded := List.replicate (3 - ds.length) '0' ++ ds
  match (padded.reverse.dropWhile (· = '0')).reverse with
  | [] => ""
  | ds => "." ++ String.ofList ds

/-- The span in the largest unit that fits: seconds, else milliseconds, else nothing at all. -/
def text (s : Span) : String :=
  if s.millis = 0 then "0ns"
  else if s.millis < 1000 then decimal s.millis ++ "ms"
  else decimal (s.millis / 1000) ++ fraction (s.millis % 1000) ++ "s"

end Span

/-- How a process ended. -/
inductive ExitStatus where
  | code (code : UInt8)
  | signal (number : Nat)
  deriving DecidableEq, Repr

namespace ExitStatus

def isSuccess (status : ExitStatus) : Bool := status = .code 0

/-- The names of the signals, from number 1 on. -/
def signalNames : List String :=
  ["SIGHUP", "SIGINT", "SIGQUIT", "SIGILL", "SIGTRAP", "SIGABRT", "SIGBUS", "SIGFPE", "SIGKILL",
    "SIGUSR1", "SIGSEGV", "SIGUSR2", "SIGPIPE", "SIGALRM", "SIGTERM", "SIGSTKFLT", "SIGCHLD",
    "SIGCONT", "SIGSTOP", "SIGTSTP", "SIGTTIN", "SIGTTOU", "SIGURG", "SIGXCPU", "SIGXFSZ",
    "SIGVTALRM", "SIGPROF", "SIGWINCH", "SIGIO", "SIGPWR", "SIGSYS"]

def signalName? : Nat → Option String
  | 0 => none
  | n + 1 => signalNames[n]?

def text : ExitStatus → String
  | .code c => "exit status: " ++ decimal c.toNat
  | .signal n =>
    "signal: " ++ decimal n ++
      match signalName? n with
      | some name => " (" ++ name ++ ")"
      | none => ""

end ExitStatus

/-- Why a probe failed, or why none was made. -/
inductive ProbeError where
  | noAddress (kind : AddressKind) (target : Identity)
  | noContainers (source : Identity)
  | noPort (protocol : Protocol) (target : Identity)
  /-- No client command makes the check over the protocol. -/
  | unsupported (protocol : Protocol) (check : Check)
  | notStarted (reason : String)
  | overdue (limit : Span)
  | unsuccessful (status : ExitStatus) (stdout stderr : String)
  /-- An error in a prober's own words. -/
  | reported (text : String)
  deriving DecidableEq, Repr

def ProbeError.message : ProbeError → String
  | .noAddress kind target => "no " ++ kind.text ++ " address for " ++ target.text
  | .noContainers source => "pod " ++ source.text ++ " has no containers"
  | .noPort protocol target => "no " ++ protocol.text ++ " port for " ++ target.text
  | .unsupported protocol check =>
    "protocol " ++ protocol.text ++ " not supported for " ++ check.title
  | .notStarted reason => reason
  | .overdue limit => "probe timed out after " ++ limit.text
  | .unsuccessful status stdout stderr =>
    status.text ++ ": stdout - " ++ stdout ++ " /// stderr - " ++ stderr
  | .reported text => text

/-- What a prober answers. -/
structure Reading where
  connected : Bool := false
  /-- The command that repeats the probe by hand. -/
  command : String := ""
  /-- The name of the pod that answered, where that was checked. -/
  endpoint : Option String := none
  rate : Option Rate := none
  error : Option ProbeError := none
  deriving DecidableEq, Repr

end PodMesh
