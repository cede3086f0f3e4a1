import PodMesh.Probe

/-!
# Client commands

The command that makes a probe from inside a container, and the command line that
repeats it by hand.
-/

namespace PodMesh

/-- A host and a port in one word. A host with colons of its own is put in brackets. -/
def hostPort (host : String) (port : UInt16) : String :=
  if ':' ∈ host.toList then "[" ++ host ++ "]:" ++ decimal port.toNat
  else host ++ ":" ++ decimal port.toNat

/-- The option that has the rate measured over a protocol. -/
def rateOption : Protocol → List String
  | .tcp => []
  | .udp => ["--udp"]
  | .sctp => ["--sctp"]

/-- The words of the client command for a target. Only over TCP does a pod tell its name. -/
def Target.client (t : Target) : Except ProbeError (List String) :=
  let destination := hostPort t.address t.port
  match t.check, t.protocol with
  | .connect, protocol =>
    .ok ["/agnhost", "connect", destination, "--timeout=5s", "--protocol=" ++ protocol.lower]
  | .endpoint, .tcp => .ok ["/usr/bin/curl", "-g", "-q", "-s", "telnet://" ++ destination]
  | .endpoint, protocol => .error (.unsupported protocol .endpoint)
  | .bandwidth, protocol =>
    .ok (["/usr/bin/iperf", "--client", t.address, "--port", decimal t.port.toNat] ++
      rateOption protocol ++ ["-yC"])

/-- The words that run a client command inside the target's source. -/
def Target.exec (t : Target) (client : List String) : List String :=
  ["exec", t.source.name, "-c", t.container, "-n", t.source.ns, "--"] ++ client

/-- The command line that repeats a probe by hand. -/
def Target.reproduction (t : Target) (client : List String) : String :=
  " ".intercalate ("kubectl" :: t.exec client)

end PodMesh
