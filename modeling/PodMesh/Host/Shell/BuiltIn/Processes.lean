import PodMesh.Host.Shell.BuiltIn.Printing
import PodMesh.Host.Shell.Signals

/-!
# Commands of the shell about processes

Signals are sent and waited for, and processes that run along are waited for.
-/

namespace PodMesh.Host.Shell

namespace State

/-- The job of a process that is known by a number. -/
def job? (s : State) (number : Nat) : Option Job :=
  s.machine.jobs.find? fun job => processNumber job.process = number

/-- What is said of a process that a signal has ended is printed, if anything is. -/
def announce (s : State) (signal : Nat) : State :=
  let words := Signals.words signal
  if words.isEmpty then s else s.printError (words ++ "\n")

/-- A signal comes. It is put off where it has a trap. -/
def receive (s : State) (signal : Nat) : State :=
  if signal = 0 then s
  else if signal = 9 then s.endWith (.killed signal)
  else if signal ∈ Signals.stopping then
    match s.traps.lookup signal with
    | some _ => { s with signals := s.signals ++ [signal] }
    | none => s.endWith .overdue
  else
    match s.traps.lookup signal with
    | some "" => s
    | some _ => { s with signals := s.signals ++ [signal] }
    | none => if Signals.ends signal then s.endWith (.killed signal) else s

end State

namespace BuiltIn

/-! ## Traps -/

/-- What is run when signals come is set, or shown. -/
def trap (args : List String) (s : State) : State :=
  withOptions [] [] args s fun _ args =>
    match args with
    | [] =>
      let traps := s.traps.mergeSort fun a b => a.1 ≤ b.1
      s.say (String.join (traps.map fun (signal, action) =>
        "trap -- " ++ quoted action ++ " " ++ Signals.name signal ++ "\n")) 0
    | first :: rest =>
      let (action, signals) : Option String × List String :=
        if rest.isEmpty || (State.number? first).any (· ≤ Signals.last) then (none, args)
        else (if first = "-" then none else some first, rest)
      go action signals (s.withStatus 0)
where
  go (action : Option String) : List String → State → State
    | [], s => s
    | name :: rest, s =>
      match Signals.number? name with
      | none => (s.printError ("trap: " ++ name ++ ": bad trap\n")).withStatus 1
      | some signal =>
        let others := s.traps.filter (·.1 ≠ signal)
        go action rest { s with traps := others ++ (action.map fun a => (signal, a)).toList }

/-! ## Signals -/

/-- Sends a signal to a process, if there is one. -/
def send (signal number : Nat) (s : State) : Option State :=
  if number = State.processNumber s.process then some (s.receive signal)
  else if number = State.processNumber s.shell then
    some { s with machine := { s.machine with sent := s.machine.sent ++ [(s.shell, signal)] } }
  else do
    let job ← s.job? number
    if job.stop < s.machine.clock || job.stop = s.machine.clock then none
    if signal = 0 || !Signals.ends signal then some s
    else
      let stopped := { job with stop := s.machine.clock, status := 128 + signal }
      some { s with
        machine := { s.machine with
          jobs := s.machine.jobs.map fun j => if j.process = job.process then stopped else j } }

/-- Sends a signal to processes, or shows the names of signals. -/
def kill (args : List String) (s : State) : State :=
  let usage := s.refuse
    "Usage: kill [-s sigspec | -signum | -sigspec] [pid | job]... or\nkill -l [exitstatus]"
  let target (signal : Nat) (state : State × Bool) (arg : String) : Except String (State × Bool) :=
    let (s, good) := state
    let name := if arg.toList.head? = some '%' then (s.lastJob.map fun n =>
      toString (State.processNumber n)).getD arg else arg
    match State.number? name with
    | none => .error ("Illegal number: " ++ arg)
    | some number =>
      match send signal number s with
      | some s => .ok (s, good)
      | none => .ok (s.complain "No such process\n" 1, false)
  let sending (signal : Nat) (args : List String) : State :=
    if args.isEmpty then usage
    else
      match args.foldlM (target signal) (s, true) with
      | .ok (s, good) => s.withStatus (if good then 0 else 1)
      | .error words => s.refuse words
  let first := (args.head?.map String.toList).getD []
  let direct := if first.head? = some '-' then Signals.number? (String.ofList (first.drop 1))
    else none
  match args, direct with
  | [], _ => usage
  | _ :: rest, some signal => sending signal rest
  | args, none =>
    withOptions ['l'] ['s'] args s fun given rest =>
      if given.any (·.1 = 'l') then
        match rest with
        | [] =>
          let names := (List.range Signals.last).map fun n => Signals.name (n + 1) ++ "\n"
          s.say ("0\n" ++ String.join names) 0
        | status :: _ =>
          match State.number? status with
          | none => s.refuse ("Illegal number: " ++ status)
          | some n =>
            let n := if 128 < n then n - 128 else n
            if 0 < n && n ≤ Signals.last then s.say (Signals.name n ++ "\n") 0
            else s.refuse ("invalid signal number or exit status: " ++ status)
      else
        match given.find? (·.1 = 's') with
        | none => sending 15 rest
        | some (_, name) =>
          match Signals.number? name with
          | some signal => sending signal rest
          | none => s.refuse ("invalid signal number or name: " ++ name)

/-! ## Jobs -/

/-- Waits until a job ends. Its status is told, and how it ended if a signal did it. -/
def waitFor (job : Job) (s : State) : State :=
  let s := s.wait (job.stop - s.machine.clock)
  let ended := 128 < job.status && job.process ∈ s.children
  let s := if ended then s.announce (job.status - 128) else s
  { s with children := s.children.filter (· ≠ job.process), status := job.status }

/-- Waits for some processes, or for all of them. -/
def wait (args : List String) (s : State) : State :=
  withOptions [] [] args s fun _ args =>
    if args.isEmpty then
      let jobs := s.machine.jobs.filter (·.process ∈ s.children)
      let stop := (jobs.map (·.stop)).foldl Nat.max s.machine.clock
      { s.wait (stop - s.machine.clock) with children := [], status := 0 }
    else
      args.foldl (fun s arg =>
        let name := if arg.toList.head? = some '%' then (s.lastJob.map fun n =>
          toString (State.processNumber n)).getD arg else arg
        match State.number? name with
        | none => s.refuse ("Illegal number: " ++ arg)
        | some number =>
          match s.job? number with
          | some job => waitFor job s
          | none => s.withStatus 127) s

/-! ## Times -/

/-- Shows how much time the shell and its processes have used, which counts as none. -/
def times (_ : List String) (s : State) : State :=
  let line := "0m0.000000s 0m0.000000s\n"
  s.say (line ++ line) 0

/-- Octal digits as a number. -/
def octal? (text : String) : Option Nat :=
  if !text.isEmpty && text.toList.all fun c => '0' ≤ c && c ≤ '7' then
    some (text.toList.foldl (fun n c => n * 8 + (c.toNat - '0'.toNat)) 0)
  else none

/-- Shows or sets the permissions that new files do not get. -/
def umask (args : List String) (s : State) : State :=
  withOptions ['S'] [] args s fun given args =>
    match args with
    | [] =>
      if given.isEmpty then
        let digits := Nat.toDigits 8 s.mask
        s.say (String.ofList (List.replicate (4 - digits.length) '0' ++ digits) ++ "\n") 0
      else
        let part (who : String) (bits : Nat) : String :=
          who ++ "=" ++ (if bits / 4 % 2 = 0 then "r" else "") ++
            (if bits / 2 % 2 = 0 then "w" else "") ++ if bits % 2 = 0 then "x" else ""
        s.say (part "u" (s.mask / 64) ++ "," ++ part "g" (s.mask / 8) ++ "," ++
          part "o" s.mask ++ "\n") 0
    | arg :: _ =>
      match octal? arg with
      | some mask => { s.withStatus 0 with mask := mask % 512 }
      | none =>
        if arg.toList.head?.any Char.isDigit then s.refuse ("Illegal number: " ++ arg)
        else s.withStatus 0

end BuiltIn

end PodMesh.Host.Shell
