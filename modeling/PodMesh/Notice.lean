import PodMesh.Peer
import PodMesh.Probe

/-!
# Notices

Everything that is said while a matrix is checked, each with its level and its text.
-/

namespace PodMesh

/-- How much a notice matters. -/
inductive Level where
  | error
  | warn
  | info
  | debug
  | trace
  deriving DecidableEq, Repr

namespace Level

def rank : Level → Nat
  | .error => 0
  | .warn => 1
  | .info => 2
  | .debug => 3
  | .trace => 4

def text : Level → String
  | .error => "ERROR"
  | .warn => "WARN"
  | .info => "INFO"
  | .debug => "DEBUG"
  | .trace => "TRACE"

end Level

/-- Something said along the way. -/
inductive Notice where
  | initializing (program version : String)
  | loaded (namespaces : Nat) (path : String)
  | excluding (id : Identity)
  | excluded (pods : Nat)
  /-- A rule was applied to the expectations of so many pairs. -/
  | rule (allow : Bool) (source target : Peer) (pairs : Nat)
  | firstTry
  | secondTry (wrong : Nat)
  | passed
  | wrong (results : Nat)
  | observationsIncomplete
  | loopbackIgnored (pairs : Nat)
  | tally (correct incorrect : Nat)
  /-- A grid under its title. -/
  | grid (title text : String)
  | skipping (source target : Identity)
  | probed (source target : Identity) (command : String)
  | mismatch (source target : Identity)
  | mismatchError (error : ProbeError)
  | blocked (command : String)
  | allowed (command : String)
  /-- A probe failed as expected. -/
  | failed (source target : Identity) (error : ProbeError)
  | workerLost
  | waiting (servers : Nat)
  | ready (port : UInt16) (protocol : Protocol)
  | notReady (port : UInt16) (protocol : Protocol) (failed : Nat)
  /-- What a client command printed. -/
  | printed (source : Identity) (address output : String)
  | rateUnread (source : Identity) (address : String) (fault : Rate.ReportFault)
  deriving DecidableEq, Repr

namespace Notice

def level : Notice → Level
  | .mismatch .. | .mismatchError .. => .error
  | .secondTry .. | .wrong .. | .observationsIncomplete | .loopbackIgnored .. | .blocked ..
  | .allowed .. | .workerLost | .rateUnread .. => .warn
  | .initializing .. | .excluded .. | .rule .. | .firstTry | .passed | .tally .. | .grid ..
  | .waiting .. | .ready .. | .notReady .. => .info
  | .loaded .. | .excluding .. | .skipping .. | .probed .. | .failed .. => .debug
  | .printed .. => .trace

/-- Two printed forms with an arrow between them. -/
def arrow (source target : String) : String := source ++ " -> " ++ target

/-- A server as messages name it. -/
def server (port : UInt16) (protocol : Protocol) : String :=
  decimal port.toNat ++ "/" ++ protocol.text

def text : Notice → String
  | .initializing program version => "initializing " ++ program ++ " " ++ version
  | .loaded n path => "loaded " ++ decimal n ++ " namespaces from " ++ path
  | .excluding id => "excluding " ++ id.text
  | .excluded n => "excluded " ++ decimal n ++ " pods from probing"
  | .rule allow source target n =>
    (if allow then "allow " else "deny ") ++ arrow source.text target.text ++
      " matched " ++ decimal n ++ " pairs"
  | .firstTry => "validating reachability matrix... (== FIRST TRY ==)"
  | .secondTry n =>
    "retrying (== SECOND TRY ==) - " ++ decimal n ++ " wrong results on first try"
  | .passed => "tests passed, validation succeeded!"
  | .wrong n => "had " ++ decimal n ++ " wrong results in reachability matrix"
  | .observationsIncomplete => "observations not complete!"
  | .loopbackIgnored n =>
    "hairpin traffic not considered: " ++ decimal n ++ " self-pairs ignored"
  | .tally correct incorrect =>
    "reachability: correct:" ++ decimal correct ++ ", incorrect:" ++ decimal incorrect ++
      ", result=" ++ (if incorrect = 0 then "true" else "false")
  | .grid title text => title ++ ":\n\n" ++ text ++ "\n"
  | .skipping source target => "skipping probe " ++ arrow source.text target.text
  | .probed source target command =>
    "validating " ++ arrow source.text target.text ++ ": " ++ command
  | .mismatch source target => "connection mismatch " ++ arrow source.text target.text
  | .mismatchError error => "probe error: " ++ error.message
  | .blocked command => "expected allowed connection was instead BLOCKED: " ++ command
  | .allowed command => "expected blocked connection was instead ALLOWED: " ++ command
  | .failed source target error =>
    "probe " ++ arrow source.text target.text ++ " failed: " ++ error.message
  | .workerLost => "probe worker panicked"
  | .waiting n => "waiting for " ++ decimal n ++ " servers to become ready"
  | .ready port protocol => "server " ++ server port protocol ++ " is ready"
  | .notReady port protocol n =>
    "server " ++ server port protocol ++ " is not ready: " ++ decimal n ++ " failed probes"
  | .printed source address output => arrow source.text address ++ ": " ++ output
  | .rateUnread source address fault => arrow source.text address ++ ": " ++ fault.message

/-- The notice as one line: its level and its text. -/
def line (n : Notice) : String := n.level.text ++ " " ++ n.text

end Notice

end PodMesh
