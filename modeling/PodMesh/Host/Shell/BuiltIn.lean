import PodMesh.Host.Shell.BuiltIn.Names
import PodMesh.Host.Shell.BuiltIn.Processes
import PodMesh.Host.Shell.BuiltIn.Variables

/-!
# Commands of the shell

The commands that a shell does itself. Some of them are special: what is assigned in front
of them stays, they come before functions, and they end the shell when they complain. Those
that run other commands are only named here.
-/

namespace PodMesh.Host.Shell.BuiltIn

/-- Leaves loops, or starts their next round. -/
def leaveLoops (flow : Nat → Flow) (args : List String) (s : State) : State :=
  let go (n : Nat) : State :=
    let loops := Nat.min n s.loops
    if loops = 0 then s.withStatus 0 else (s.withStatus 0).endWith (flow loops)
  match args with
  | [] => go 1
  | arg :: _ =>
    match State.number? arg with
    | none | some 0 => s.refuse ("Illegal number: " ++ arg)
    | some n => go n

/-- Ends something, with a status if one is given. -/
def leave (flow : Flow) (args : List String) (s : State) : State :=
  match args with
  | [] => s.endWith flow
  | arg :: _ =>
    match State.number? arg with
    | none =>
      if s.family = .plain then s.refuse ("Illegal number: " ++ arg)
      else (s.complain (arg ++ ": numeric argument required") 2).endWith flow
    | some status => { s with status, flow }

/-- The commands that run no other ones, by name. -/
def table : List (String × (List String → State → State)) :=
  [(":", fun _ s => s.withStatus 0), ("true", fun _ s => s.withStatus 0),
    ("false", fun _ s => s.withStatus 1), ("echo", echo), ("printf", printf),
    ("test", test false), ("[", test true), ("cd", cd), ("chdir", cd), ("pwd", pwd),
    ("exit", leave .exits), ("return", leave .returns), ("break", leaveLoops .breaks),
    ("continue", leaveLoops .continues), ("shift", shift), ("set", set), ("unset", unset),
    ("export", exportVariables), ("readonly", fix), ("local", makeLocal), ("read", read),
    ("getopts", nextOption), ("trap", trap), ("kill", kill), ("wait", wait), ("times", times),
    ("umask", umask), ("hash", hash), ("alias", addAliases), ("unalias", dropAliases),
    ("jobs", fun _ s => s.withStatus 0),
    ("ulimit", fun _ s => s.say "unlimited\n" 0)]

/-- The commands that run others. -/
def running : List String := [".", "command", "eval", "exec", "type"]

/-- The special commands, and those of the extended family. -/
def isSpecial (family : Family) (name : String) : Bool :=
  name ∈ specialNames || (name = "local" && family = .plain)

/-- Is a name one of a command of the shell? -/
def isKnown (family : Family) (name : String) : Bool :=
  (table.lookup name).isSome || name ∈ running || (name = "source" && family = .extended)

/-- The commands whose arguments may be assignments, which do not fall into fields. -/
def takesAssignments (name : String) : Bool :=
  name ∈ ["alias", "export", "local", "readonly"]

/-! ## What names stand for -/

/-- Tells what a name stands for, in one word or in a sentence; none if it stands for nothing. -/
def meaning? (sentence : Bool) (name : String) (s : State) : Option String :=
  let tell (short long : String) : Option String :=
    some ((if sentence then name ++ " is " ++ long else short) ++ "\n")
  match s.aliases.lookup name with
  | some value =>
    tell ("alias " ++ name ++ "=" ++ quoted value) ("an alias for " ++ value)
  | none =>
    if name ∈ reserved then tell name "a shell keyword"
    else if isKnown s.family name && isSpecial s.family name then
      tell name "a special shell builtin"
    else if (s.functions.lookup name).isSome then tell name "a shell function"
    else if isKnown s.family name then tell name "a shell builtin"
    else
      match s.lookUp name with
      | .ok (path, _) =>
        tell path ((if name ∈ s.known then "a tracked alias for " else "") ++ path)
      | .error _ => none

/-- Tells what names stand for. -/
def describe (sentence : Bool) (names : List String) (s : State) : State :=
  names.foldl (fun s name =>
    match meaning? sentence name s with
    | some text =>
      let s := s.say text s.status
      if (s.lookUp name).isOk then { s with known := s.known.filter (· ≠ name) ++ [name] } else s
    | none =>
      (if sentence then s.say (name ++ ": not found\n") 127 else s).withStatus 127)
    (s.withStatus 0)

end PodMesh.Host.Shell.BuiltIn
