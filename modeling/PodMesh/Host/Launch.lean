import PodMesh.Host.Shell.Run
import PodMesh.Kubectl

/-!
# Starting processes

What comes of starting a process on a host: it cannot be started, it is still running, or
its output still open, when its time is up, or it ends. Nothing is known of the output of a
process that did not end, but what it did to the files stays.
-/

namespace PodMesh.Host

/-- The number of commands after which a script counts as endless. -/
def maxSteps : Nat := 100000

/-- How deep commands may run inside each other. -/
def maxDepth : Nat := 20000

/-- The environment of the processes on a host. -/
def environment : List (String × String) :=
  [("HOME", "/root"),
    ("PATH", "/usr/local/sbin:/usr/local/bin:/usr/sbin:/usr/bin:/sbin:/bin")]

/-- The process that starts all others. What it prints and the errors it prints are collected; its
input is empty. -/
def first (files : Files) (limit : Span) : Shell.State :=
  { machine :=
      { files, streams := #[.collector [], .collector [], .null], deadline := limit.millis
        steps := maxSteps }
    assigned := environment.map fun (name, value) =>
      { name, value := some value, exported := true }
    descriptors := [(0, 2), (1, 0), (2, 1)]
    folder := files.current }

/-- What came of the first process, up to a limit. A limit of nothing is up at once. -/
def outcome (limit : Span) (after : Shell.State) : Execution :=
  let collected (stream : Nat) : List UInt8 :=
    Text.Octets.toBytes (after.machine.collected stream)
  if after.flow = .overdue || limit.millis ≤ after.machine.heldUntil then .overdue
  else
    let status : ExitStatus := match after.flow with
      | .killed signal => .signal signal
      | _ => .code (UInt8.ofNat after.status)
    .ended status (collected 0) (collected 1)

/-- Starts a process by its words and waits for it, up to a limit. -/
def launch (limit : Span) (words : List String) (files : Files) : Execution × Files :=
  let octets := words.map Text.Octets.ofText
  let before := first files limit
  match octets with
  | [] | "" :: _ => (.notStarted FileFault.absent.message, files)
  | name :: args =>
    if words.any fun word => '\x00' ∈ word.toList then
      (.notStarted "nul byte found in provided data", files)
    else
      match before.lookUp name with
      | .ok (_, .script content) =>
        if content.take 2 ≠ "#!".toUTF8.toList then
          (.notStarted FileFault.notRunnable.message, files)
        else go before name args
      | .ok _ => go before name args
      | .error fault => (.notStarted fault.message, files)
where
  go (before : Shell.State) (name : String) (args : List String) : Execution × Files :=
    let depth := maxSteps + args.length
    match Shell.State.start (Shell.State.run maxDepth) depth name args before with
    | .ok after => (outcome limit after, { after.machine.files with current := files.current })
    | .error fault => (.notStarted fault.message, files)

end PodMesh.Host
