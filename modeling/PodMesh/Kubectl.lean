import PodMesh.Client
import PodMesh.Prober
import PodMesh.Text.Utf8

/-!
# Probing through kubectl

The prober that runs client commands in the source pod. It starts a process for every
question and judges by how the process ends and by what it prints.
-/

namespace PodMesh

/-- What comes of starting a process and waiting for it, up to a limit. -/
inductive Execution where
  | notStarted (reason : String)
  | overdue
  | ended (status : ExitStatus) (stdout stderr : List UInt8)
  deriving DecidableEq, Repr

namespace Kubectl

/-- How processes are started: the command line in front of every invocation, a context to select,
and the limit for each. -/
structure Config where
  program : String
  arguments : List String
  context : Option String
  limit : Span
  deriving DecidableEq, Repr

/-- A configuration from the words of a command line, of which there must be one. -/
def Config.ofWords (words : List String) (context : Option String) (limit : Span) :
    Except Fault Config :=
  match words with
  | [] => .error .emptyCommand
  | program :: arguments => .ok { program, arguments, context, limit }

/-- The words of the process that runs a client command for a target. -/
def Config.invocation (config : Config) (target : Target) (client : List String) : List String :=
  config.program :: config.arguments ++
    (match config.context with
      | some context => ["--context", context]
      | none => []) ++
    target.exec client

/-- The characters of some output. -/
def output (bytes : List UInt8) : String := String.ofList (Text.lossy bytes)

/-- The characters of some output, without the blanks around it. -/
def trimmed (bytes : List UInt8) : String := String.ofList (Text.trim (Text.lossy bytes))

/-- The reading of a process that ended, and what is said about it. -/
def judge (target : Target) (command : String) (status : ExitStatus)
    (stdout stderr : List UInt8) : Reading × List Notice :=
  let printed : Notice := .printed target.source target.address (trimmed stdout)
  if !status.isSuccess then
    ({ command, error := some (.unsuccessful status (trimmed stdout) (trimmed stderr)) }, [printed])
  else
    match target.check with
    | .connect => ({ connected := true, command }, [printed])
    | .endpoint => ({ connected := true, command, endpoint := some (trimmed stdout) }, [printed])
    | .bandwidth =>
      match Rate.ofReport (Text.lossy stdout) with
      | .ok rate => ({ connected := true, command, rate := some rate }, [printed])
      | .error fault =>
        ({ connected := true, command }, [printed, .rateUnread target.source target.address fault])

/-- The reading of a process by what came of it, and what is said about it. -/
def read (config : Config) (target : Target) (command : String) :
    Execution → Reading × List Notice
  | .notStarted reason => ({ command, error := some (.notStarted reason) }, [])
  | .overdue => ({ command, error := some (.overdue config.limit) }, [])
  | .ended status stdout stderr => judge target command status stdout stderr

/-- One probe on a host, and the host after it. -/
def probe {σ : Type} (launch : Span → List String → σ → Execution × σ) (config : Config)
    (target : Target) (host : σ) : (Reading × List Notice) × σ :=
  match target.client with
  | .error error => (({ error := some error }, []), host)
  | .ok client =>
    let (execution, host) := launch config.limit (config.invocation target client) host
    (read config target (target.reproduction client) execution, host)

/-- The prober that starts processes on a host, whose state is all that it remembers. It always
answers. -/
def prober {σ : Type} (launch : Span → List String → σ → Execution × σ) (config : Config) :
    Prober σ :=
  { ask := fun host target =>
      let ((reading, notices), host) := probe launch config target host
      (.reading reading notices, host) }

end Kubectl

end PodMesh
