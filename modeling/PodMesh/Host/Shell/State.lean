import PodMesh.Host.Machine
import PodMesh.Host.Shell.Reader

/-!
# Shells

A shell that runs a script: its variables, its functions, where its descriptors lead, and
how the script goes on. The machine goes along with it, so that what a shell does to the
files, and the time it takes, are seen by all that runs after it.
-/

namespace PodMesh.Host.Shell

/-- How a script goes on behind a command. -/
inductive Flow where
  | next
  /-- Leaves so many loops. -/
  | breaks (loops : Nat)
  /-- Leaves all but the last of so many loops, which starts its next round. -/
  | continues (loops : Nat)
  | returns
  | exits
  /-- A signal has ended the process. -/
  | killed (signal : Nat)
  /-- The time is up, or there is no end. -/
  | overdue
  deriving DecidableEq, Repr

/-- Which of two families a shell is of. They differ in how they echo and complain. -/
inductive Family where
  | plain
  | extended
  deriving DecidableEq, Repr

structure Variable where
  name : String
  /-- None if it is only known by name. -/
  value : Option String
  exported : Bool := false
  fixed : Bool := false
  deriving DecidableEq, Repr

/-- A shell. -/
structure State where
  machine : Machine
  family : Family := .plain
  /-- The name it was started by, which complaints start with. -/
  name : String := "sh"
  arguments : List String := []
  assigned : List Variable := []
  functions : List (String × Command) := []
  aliases : List (String × String) := []
  /-- Where descriptors lead: to streams. -/
  descriptors : List (Nat × Nat)
  folder : Place
  /-- The status of the last command. -/
  status : Nat := 0
  /-- The status of the last command that was run for its output, within the current one. -/
  inner : Nat := 0
  flow : Flow := .next
  /-- The letters of the options that are on. -/
  options : List Char := []
  /-- What is run at the end, which counts as signal zero, or when a signal comes. -/
  traps : List (Nat × String) := []
  /-- The signals that came and have a trap. -/
  signals : List Nat := []
  /-- The line of the command under way. -/
  line : Nat := 1
  /-- The command of the shell that complaints are about. -/
  subject : Option String := none
  /-- That command ends the shell when it complains. -/
  strict : Bool := false
  loops : Nat := 0
  /-- The variables that functions under way have of their own, as they were before. -/
  frames : List (List (String × Option Variable)) := []
  /-- The process it runs in, and the one of the shell that it is a part of. -/
  process : Nat := 0
  shell : Nat := 0
  /-- The processes it started and did not wait for. -/
  children : List Nat := []
  lastJob : Option Nat := none
  /-- A status other than zero is expected here. -/
  tested : Bool := false
  /-- The argument that is gone through for its letters, and how many of them were seen. -/
  letters : Nat × Nat := (1, 0)
  /-- The permissions that new files do not get. -/
  mask : Nat := 18
  /-- The programs that were looked for and found. -/
  known : List String := []

namespace State

def withStatus (s : State) (status : Nat) : State := { s with status := status % 256 }

def endWith (s : State) (flow : Flow) : State := { s with flow }

/-- May the next command be run? -/
def goesOn (s : State) : Bool := s.flow = .next

/-- The number that a process is known by. -/
def processNumber (n : Nat) : Nat := 4242 + n

/-- Time passes. It may be up. -/
def wait (s : State) (millis : Nat) : State :=
  let machine := s.machine.wait millis
  { s with machine, flow := if machine.isOver then .overdue else s.flow }

/-! ## Files and streams -/

/-- The files, as seen from the current folder. -/
def files (s : State) : Files := { s.machine.files with current := s.folder }

def withFiles (s : State) (files : Files) : State :=
  let files := { files with current := s.machine.files.current }
  { s with machine := { s.machine with files } }

/-- The stream that a descriptor leads to. -/
def stream? (s : State) (descriptor : Nat) : Option Nat := s.descriptors.lookup descriptor

/-- A descriptor leads to a stream, or nowhere. -/
def redirect (s : State) (descriptor : Nat) (stream : Option Nat) : State :=
  let others := s.descriptors.filter (·.1 ≠ descriptor)
  { s with
    descriptors := match stream with
      | some n => (descriptor, n) :: others
      | none => others }

/-- Writes to a descriptor. It fails where that leads to nothing that can be written to. -/
def write? (s : State) (descriptor : Nat) (text : String) : Option State := do
  let machine ← s.machine.write? (← s.stream? descriptor) text
  return { s with machine }

/-- Prints an error. -/
def printError (s : State) (text : String) : State := (s.write? 2 text).getD s

/-- A complaint as it is printed. -/
def complaintText (s : State) (words : String) : String :=
  let line := toString s.line
  let subject := match s.subject with
    | some command => command ++ ": "
    | none => ""
  match s.family with
  | .plain => s.name ++ ": " ++ line ++ ": " ++ subject ++ words ++ "\n"
  | .extended => s.name ++ ": line " ++ line ++ ": " ++ subject ++ words ++ "\n"

/-- Complains, and has a status. -/
def complain (s : State) (words : String) (status : Nat) : State :=
  (s.printError (s.complaintText words)).withStatus status

/-- Complains, and ends. -/
def giveUp (s : State) (words : String) (status : Nat) : State :=
  (s.complain words status).endWith .exits

/-- Complains about how a command of the shell was used, which ends the shell where that command is
a strict one. -/
def refuse (s : State) (words : String) : State :=
  if s.strict then s.giveUp words 2 else s.complain words 2

/-- Prints something for a command of the shell, which has a status. -/
def say (s : State) (text : String) (status : Nat) : State :=
  if text.isEmpty then s.withStatus status
  else
    match s.write? 1 text with
    | some s => s.withStatus status
    | none => s.complain (s.subject.getD "" ++ ": I/O error") 1

/-- What can be read from the input. -/
def input (s : State) : Input :=
  ((s.stream? 0).bind s.machine.input?).getD {}

/-- The input is read up to what is left of it. -/
def leave (s : State) (left : List Char) : State :=
  match s.stream? 0 with
  | some stream => { s with machine := s.machine.leave stream left }
  | none => s

/-- The number that decimal digits write. -/
def digitsValue (cs : List Char) : Nat :=
  cs.foldl (fun n c => n * 10 + (c.toNat - '0'.toNat)) 0

/-- The number that a text of digits writes. -/
def number? (text : String) : Option Nat :=
  if !text.isEmpty && text.toList.all Char.isDigit then some (digitsValue text.toList) else none

/-! ## Variables -/

def find? (s : State) (name : String) : Option Variable :=
  s.assigned.find? (·.name = name)

/-- The value of a variable that has one. -/
def get? (s : State) (name : String) : Option String := (s.find? name).bind (·.value)

def put (s : State) (v : Variable) : State :=
  if (s.find? v.name).isSome then
    { s with assigned := s.assigned.map fun old => if old.name = v.name then v else old }
  else { s with assigned := s.assigned ++ [v] }

/-- Is a variable one that cannot be changed? -/
def isFixed (s : State) (name : String) : Bool := (s.find? name).any (·.fixed)

/-- A variable gets a value. -/
def assign (s : State) (name value : String) : State :=
  let known := (s.find? name).getD { name, value := none }
  let s := if name = "OPTIND" then { s with letters := ((number? value).getD 1, 0) } else s
  s.put { known with value := some value, exported := known.exported || 'a' ∈ s.options }

def remove (s : State) (name : String) : State :=
  { s with assigned := s.assigned.filter (·.name ≠ name) }

/-- A variable as it was before. -/
def restore (s : State) (name : String) (before : Option Variable) : State :=
  match before with
  | some v => s.put v
  | none => s.remove name

/-- The environment of processes that are started. -/
def environment (s : State) : List (String × String) :=
  s.assigned.filterMap fun v =>
    if v.exported then v.value.map fun value => (v.name, value) else none

/-- The characters that separate fields. -/
def separators (s : State) : List Char := ((s.get? "IFS").getD " \t\n").toList

/-! ## Parameters -/

/-- The value of a parameter that is set, apart from those that stand for all arguments. -/
def parameter? (s : State) (name : String) : Option String :=
  match name with
  | "#" => some (toString s.arguments.length)
  | "?" => some (toString s.status)
  | "$" => some (toString (processNumber s.shell))
  | "!" => s.lastJob.map fun n => toString (processNumber n)
  | "-" => some (String.ofList s.options)
  | "0" => some s.name
  | "LINENO" => if s.family = .extended then some (toString s.line) else s.get? name
  | name =>
    if name.toList.all Char.isDigit then
      let n := digitsValue name.toList
      if n = 0 then some s.name else s.arguments[n - 1]?
    else s.get? name

end State

end PodMesh.Host.Shell
