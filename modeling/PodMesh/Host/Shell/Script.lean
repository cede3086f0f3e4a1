import PodMesh.Host.Shell.BuiltIn
import PodMesh.Host.Shell.Redirections

/-!
# Scripts under way

A script is read and run one complete command at a time, so that what stands before a
mistake in it is still run. Parts of a shell run as processes of their own: of what they do,
only what they did to the machine is seen afterwards, and how they ended.
-/

namespace PodMesh.Host.Shell

namespace State

/-- Runs the rest of a script, which may come from a file. Every command takes a character, so one
more step than there are characters is enough. -/
def runSource (run : Command → State → State) (isFile : Bool) : Nat → Source → State → State
  | 0, _, s => s
  | n + 1, source, s =>
    if !s.goesOn then s
    else
      let echo (count : Nat) (s : State) : State :=
        if isFile && 'v' ∈ s.options then s.printError (String.ofList (source.rest.take count))
        else s
      match readCommand? { source with aliases := s.aliases } with
      | .error fault =>
        ({ echo source.rest.length s with line := fault.line }).giveUp fault.message 2
      | .ok none => echo source.rest.length s
      | .ok (some (command, next)) =>
        let s := echo (source.rest.length - next.rest.length) s
        runSource run isFile n next (run command s)

/-- Runs the commands of a text. Without any, the status is zero. -/
def runText (run : Command → State → State) (isFile : Bool) (text : String) (s : State) : State :=
  let isBlank (c : Char) : Bool := c = ' ' || c = '\t' || c = '\n'
  let s := if text.toList.all isBlank then s.withStatus 0 else s
  runSource run isFile (text.length + 1) { rest := text.toList } s

/-! ## Signals -/

/-- Runs what was set for the signals that came. The status is as it was before. -/
def handleSignals (run : Command → State → State) (s : State) : State :=
  let (own, others) := s.machine.sent.partition (·.1 = s.process)
  let s := if own.isEmpty then s
    else own.foldl (fun s (_, signal) => s.receive signal)
      { s with machine := { s.machine with sent := others } }
  s.signals.foldl (fun s signal =>
    match if s.goesOn then s.traps.lookup signal else none with
    | none => s
    | some action =>
      let after := runText run false action { s with tested := false }
      if after.goesOn then { after with status := s.status, tested := s.tested }
      else { after with tested := s.tested }) { s with signals := [] }

/-- Ends a shell, with what was set for its end. -/
def finish (run : Command → State → State) (s : State) : State :=
  match s.flow with
  | .killed _ | .overdue => s
  | _ =>
    match s.traps.lookup 0 with
    | none => s.endWith .exits
    | some action =>
      let traps := s.traps.filter (·.1 ≠ 0)
      let after := runText run false action { s with flow := .next, tested := false, traps }
      match after.flow with
      | .exits | .killed _ | .overdue => after
      | _ => { after with status := s.status, flow := .exits }

/-! ## Parts -/

/-- A shell as a process of its own. Signals are only still ignored. -/
def part (s : State) : State :=
  let machine := s.machine.startProcess
  { s with
    machine
    process := machine.processes
    children := []
    traps := s.traps.filter fun (signal, action) => signal ≠ 0 && action.isEmpty }

/-- The status that the process which started a shell sees. -/
def ending (s : State) : Nat :=
  match s.flow with
  | .killed signal => 128 + signal
  | _ => s.status % 256

/-- A shell that has waited for a process. -/
def rejoin (s after : State) : State :=
  let s := { s with machine := after.machine, status := after.ending }
  match after.flow with
  | .overdue => s.endWith .overdue
  | .killed signal => s.announce signal
  | _ => s

/-- A shell that would end because a command failed where it was not expected to. -/
def checked (s : State) : State :=
  if s.goesOn && s.status ≠ 0 && 'e' ∈ s.options && !s.tested then s.endWith .exits else s

/-- Runs something whose status may be anything. -/
def whileTested (s : State) (go : State → State) : State :=
  { go { s with tested := true } with tested := s.tested }

end State

end PodMesh.Host.Shell
