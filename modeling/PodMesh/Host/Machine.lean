import PodMesh.Host.Effect

/-!
# Machines

What all processes of a host share: its files, the streams that processes read from and
write to, and the time. What is written to a stream that collects is kept with the time
when it was written, so that processes which run side by side can be run one after the
other.
-/

namespace PodMesh.Host

/-- Something written, and when. -/
structure Chunk where
  time : Nat
  text : String
  deriving DecidableEq, Repr

/-- A stream. -/
inductive Stream where
  /-- Collects what is written, the last first. -/
  | collector (chunks : List Chunk)
  /-- Gives what is left of some text, after which more may come without an end. -/
  | source (text : List Char) (endless : Bool)
  /-- Reads or writes a file from some byte on. -/
  | file (place : Place) (offset : Nat) (appends : Bool)
  | null
  | zeros
  deriving DecidableEq, Repr

/-- A process that runs while others go on. -/
structure Job where
  process : Nat
  /-- When it ends. -/
  stop : Nat
  status : Nat
  /-- It keeps the output of the first process open. -/
  holds : Bool
  deriving DecidableEq, Repr

/-- A machine. -/
structure Machine where
  files : Files
  streams : Array Stream
  /-- The time, in milliseconds. -/
  clock : Nat := 0
  /-- The time when everything is stopped. -/
  deadline : Nat
  jobs : List Job := []
  /-- Signals that were sent and have not yet come: to which process, and which one. -/
  sent : List (Nat × Nat) := []
  /-- How many processes there were. -/
  processes : Nat := 0
  /-- How many commands may still be run. Long texts and processes count as several. -/
  steps : Nat
  /-- How many more may be run once a process that has no end was left to itself. -/
  reserve : Nat := steps
  deriving DecidableEq, Repr

namespace Machine

/-- A stream is opened, with the number it gets. -/
def opening (m : Machine) (stream : Stream) : Machine × Nat :=
  ({ m with streams := m.streams.push stream }, m.streams.size)

def set (m : Machine) (number : Nat) (stream : Stream) : Machine :=
  { m with streams := m.streams.setIfInBounds number stream }

/-- Something is done that takes as long as some commands. -/
def spend (m : Machine) (steps : Nat) : Machine := { m with steps := m.steps - steps }

/-- A process that used up all commands is left to itself. Others go on with half of the reserve. -/
def refill (m : Machine) : Machine :=
  if m.steps = 0 then { m with steps := m.reserve / 2, reserve := m.reserve / 2 } else m

/-- How many characters are handled as fast as one command is run. -/
def charactersPerStep : Nat := 200

/-- A text of some length is handled. -/
def handle (m : Machine) (length : Nat) : Machine := m.spend (length / charactersPerStep)

/-- A process starts, which takes as long as some commands. It gets the next number. -/
def startProcess (m : Machine) : Machine :=
  { m.spend 10 with processes := m.processes + 1 }

/-- Writes to a stream; none if it cannot be written to. -/
def write? (m : Machine) (number : Nat) (text : String) : Option Machine :=
  match m.streams[number]? with
  | some (.collector chunks) =>
    if text.isEmpty then some m else some (m.set number (.collector (⟨m.clock, text⟩ :: chunks)))
  | some (.file place offset appends) =>
    let size := match m.files.node? place with
      | some (.file content _) => content.length
      | _ => 0
    let offset := if appends then size else offset
    let bytes := Text.Octets.toBytes text
    some { (m.set number (.file place (offset + bytes.length) appends)).handle size with
      files := m.files.write place offset bytes }
  | some .null | some .zeros => some m
  | some (.source ..) | none => none

/-- What can be read from a stream; none if nothing can ever be read. -/
def input? (m : Machine) (number : Nat) : Option Input :=
  match m.streams[number]? with
  | some (.source text endless) => some { text, endless }
  | some (.file place offset _) =>
    match m.files.node? place with
    | some (.file content _) =>
      some { text := (Text.Octets.ofBytes (content.drop offset)).toList, seekable := true }
    | some .program => some { text := ['\x7f'], seekable := true }
    | some .folder => some { fault := some .isFolder }
    | _ => some { seekable := true }
  | some .null => some {}
  | some .zeros => some { text := List.replicate Call.zerosRead '\x00', endless := true }
  | some (.collector _) | none => none

/-- A stream after it was read up to what is left of it. -/
def leave (m : Machine) (number : Nat) (left : List Char) : Machine :=
  match m.streams[number]? with
  | some (.source _ endless) => m.set number (.source left endless)
  | some (.file place _ appends) =>
    match m.files.node? place with
    | some (.file content _) =>
      m.set number (.file place (content.length - left.length) appends)
    | _ => m
  | _ => m

/-- Everything that a stream collected, in order of time. -/
def collected (m : Machine) (number : Nat) : String :=
  match m.streams[number]? with
  | some (.collector chunks) =>
    String.join ((chunks.reverse.mergeSort fun a b => a.time ≤ b.time).map (·.text))
  | _ => ""

/-- What a stream collected is now to be read from it. -/
def turnToSource (m : Machine) (number : Nat) (endless : Bool) : Machine :=
  m.set number (.source (m.collected number).toList endless)

/-- Time passes. -/
def wait (m : Machine) (millis : Nat) : Machine := { m with clock := m.clock + millis }

/-- Is the time up? -/
def isOver (m : Machine) : Bool := m.deadline ≤ m.clock

/-- The time up to which the output of the first process is open. -/
def heldUntil (m : Machine) : Nat :=
  ((m.jobs.filter (·.holds)).map (·.stop)).foldl Nat.max m.clock

end Machine

end PodMesh.Host
