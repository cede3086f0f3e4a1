import PodMesh.Matrix.Tally
import PodMesh.Pass

/-!
# Readiness

Before a matrix is validated, its servers can be waited for. A server is a port and a
protocol; it is ready once every pod answers on it. Servers that are not ready are
tried again, round by round.
-/

namespace PodMesh

/-- A port and a protocol that every pod is to answer on. -/
structure Server where
  port : UInt16
  protocol : Protocol
  deriving DecidableEq, Repr

/-- Every port of a cluster with every protocol of it. -/
def Cluster.servers (c : Cluster) : List Server :=
  c.ports.flatMap fun port => c.protocols.map fun protocol => ⟨port, protocol⟩

/-- The plan that tries a server, at each pod's own address. -/
def Server.plan (s : Server) : Plan := { port := some s.port, protocol := s.protocol }

namespace Pool

variable {σ : Type}

/-- The number of pairs that fail on a server, in a pass that expects all of them to connect. -/
def trial (pool : Pool σ) (cluster : Cluster) (server : Server) (world : World σ) :
    Except Fault Nat × World σ :=
  match Matrix.make cluster.ids true with
  | .error fault => (.error fault, world)
  | .ok matrix =>
    match pool.pass cluster server.plan matrix world with
    | ⟨.error fault, _, world⟩ => (.error fault, world)
    | ⟨.ok (), matrix, world⟩ =>
      match matrix.tally false with
      | .error fault => (.error fault, world)
      | .ok (tally, notices) => (.ok tally.incorrect, world.say notices)

/-- Tries servers in turn and gives those that are not ready. -/
def round (pool : Pool σ) (cluster : Cluster) :
    List Server → World σ → Except Fault (List Server) × World σ
  | [], world => (.ok [], world)
  | server :: rest, world =>
    match pool.trial cluster server world with
    | (.error fault, world) => (.error fault, world)
    | (.ok failed, world) =>
      let said : Notice :=
        if failed = 0 then .ready server.port server.protocol
        else .notReady server.port server.protocol failed
      match pool.round cluster rest (world.say [said]) with
      | (.error fault, world) => (.error fault, world)
      | (.ok waiting, world) => (.ok (if failed = 0 then waiting else server :: waiting), world)

/-- The servers that are still not ready after at most so many rounds. -/
def rounds (pool : Pool σ) (cluster : Cluster) :
    Nat → List Server → World σ → Except Fault (List Server) × World σ
  | 0, pending, world => (.ok pending, world)
  | _, [], world => (.ok [], world)
  | tries + 1, pending, world =>
    match pool.round cluster pending world with
    | (.error fault, world) => (.error fault, world)
    | (.ok waiting, world) => pool.rounds cluster tries waiting world

/-- Waits until every server of a cluster is ready, for at most so many rounds. -/
def waitReady (pool : Pool σ) (cluster : Cluster) (tries : Nat) (world : World σ) :
    Except Fault Unit × World σ :=
  let servers := cluster.servers
  match pool.rounds cluster tries servers (world.say [.waiting servers.length]) with
  | (.error fault, world) => (.error fault, world)
  | (.ok [], world) => (.ok (), world)
  | (.ok waiting, world) => (.error (.notReady tries waiting.length), world)

end Pool

end PodMesh
