import PodMesh.Host.Shell.Start

/-!
# Commands

What a command of the shell language does to a shell. Commands inside a command are run by
the same function one level further down, so that the number of levels bounds the depth of
functions and scripts that run themselves. A loop takes commands from the machine, which has
only so many: a script that uses them up is taken to have no end.
-/

namespace PodMesh.Host.Shell

namespace State

/-- How deep words may stand inside each other. -/
def wordDepth : Nat := 1000

/-- How deep functions may run inside each other. -/
def functionDepth : Nat := 1000

/-! ## Simple commands -/

/-- What the first word of a command asks for. -/
inductive Task where
  | nothing
  | function (body : Command) (args : List String)
  /-- A command of the shell. It may end the shell when it complains. -/
  | builtIn (name : String) (strict : Bool) (args : List String)
  | program (name : String) (args : List String)

/-- The task that words ask for. A word that asks for a command leaves functions out, and takes away
that a complaint ends the shell. -/
def taskOf (s : State) : List String → Bool → Task
  | [], _ => .nothing
  | name :: args, plain =>
    let builtIn := BuiltIn.isKnown s.family name
    let special := builtIn && BuiltIn.isSpecial s.family name
    if name = "command" then
      match args with
      | "-p" :: target :: rest | "--" :: target :: rest => taskOf s (target :: rest) true
      | target :: rest =>
        if target.toList.head? = some '-' && target ≠ "-" then .builtIn name false args
        else taskOf s (target :: rest) true
      | [] => .builtIn name false args
    else
      match if special || plain then none else s.functions.lookup name with
      | some body => .function body args
      | none =>
        if builtIn then .builtIn name (special && !plain && s.family = .plain) args
        else .program name args

/-- Is a task one of the special commands? -/
def Task.isSpecial (family : Family) : Task → Bool
  | .builtIn name strict _ => strict || (family = .extended && name = "exec")
  | _ => false

/-- The task of replacing the shell, or of leaving its descriptors changed. -/
def Task.exec? : Task → Option (List String)
  | .builtIn "exec" _ args => some args
  | _ => none

/-- The words of a command. Behind some names, what looks like an assignment does not fall into
fields. -/
def expandWords (run : Command → State → State) (words : List (List Piece)) (s : State) :
    List String × State :=
  match words with
  | [] => ([], s)
  | first :: rest =>
    let (done, s) := expandFields run wordDepth [first] s
    if !(done.head?.any BuiltIn.takesAssignments) then
      let (more, s) := expandFields run wordDepth rest s
      (done ++ more, s)
    else
      rest.foldl (fun (done, s) word =>
        match if s.goesOn then assignment? word else none with
        | some (.mk name value) =>
          let (text, s) := expandValue run wordDepth value s
          (done ++ [name ++ "=" ++ text], s)
        | none =>
          let (more, s) := expandFields run wordDepth [word] s
          (done ++ more, s)) (done, s)

/-- The assignments in front of a command are made, one after the other. -/
def assignAll (run : Command → State → State) (exported : Bool) (assignments : List Assignment)
    (s : State) : List (String × String) × State :=
  assignments.foldl (fun (done, s) (.mk name value) =>
    if !s.goesOn then (done, s)
    else
      let (text, s) := expandValue run wordDepth value s
      let s := { s with machine := s.machine.handle text.length }
      if !s.goesOn then (done, s)
      else if s.isFixed name then (done, s.giveUp (name ++ ": is read only") 2)
      else
        let s := s.assign name text
        let s := if exported then
            s.put { (s.find? name).getD { name, value := none } with exported := true }
          else s
        (done ++ [(name, text)], s)) ([], s)

/-- Shows a command before it is run, where errors went before it. -/
def trace (before : State) (assigned : List (String × String)) (words : List String) (s : State) :
    State :=
  if 'x' ∉ s.options then s
  else
    let shown := assigned.map fun (name, value) => name ++ "=" ++ value
    let text := (s.get? "PS4").getD "" ++ " ".intercalate (shown ++ words) ++ "\n"
    let printed := { s with descriptors := before.descriptors }.printError text
    { printed with descriptors := s.descriptors }

/-- Calls a function. -/
def call (run : Command → State → State) (body : Command) (args : List String) (s : State) :
    State :=
  if functionDepth ≤ s.frames.length then
    s.giveUp ("Maximum function recursion depth (" ++ toString functionDepth ++ ") reached") 2
  else
    let after := run body
      { s with arguments := args, frames := [] :: s.frames, loops := 0, letters := (1, 0) }
    let own := after.frames.headD []
    let after := own.foldl (fun s (name, before) => s.restore name before) after
    { after with
      arguments := s.arguments
      frames := s.frames
      loops := s.loops
      letters := s.letters
      flow := if after.flow = .returns then .next else after.flow }

/-- Runs the script in a file as a part of this one. -/
def source (run : Command → State → State) (name : String) (s : State) : State :=
  let find (path : String) : Except FileFault (List UInt8) :=
    match s.files.find (Text.Octets.toText path) with
    | .ok (_, .file content _) => .ok content
    | .ok _ => .ok []
    | .error fault => .error fault
  let found := if '/' ∈ name.toList then find name
    else
      let folders := (Text.splitOn ':' ((s.get? "PATH").getD "").toList).map String.ofList
      match folders.findSome? fun folder => (find (folder ++ "/" ++ name)).toOption with
      | some content => .ok content
      | none => if s.family = .plain then .error .absent else find name
  match found with
  | .error fault =>
    match s.family with
    | .extended => { s with subject := none }.complain (name ++ ": " ++ fault.words) 1
    | .plain =>
      if '/' ∈ name.toList then
        let words := if fault ∈ [.absent, .notFolder] then "No such file" else fault.words
        s.refuse ("cannot open " ++ name ++ ": " ++ words)
      else s.refuse (name ++ ": not found")
  | .ok content =>
    let after := runText run true (Text.Octets.ofBytes content)
      { s with subject := some name, tested := false, strict := false }
    { after with
      tested := s.tested
      flow := if after.flow = .returns then .next else after.flow }

/-- What comes of starting a program by its name, with the status of a name that nothing can be
started by. -/
def launched (run : Command → State → State) (name : String) (args : List String) (s : State) :
    Except (FileFault × Nat) State :=
  let failing (fault : FileFault) : FileFault × Nat :=
    (fault, if '/' ∈ name.toList then statusOf fault else 127)
  match s.lookUp name with
  | .error fault => .error (failing fault)
  | .ok found =>
    (startFound run (s.machine.steps + args.length + 2) name found args s.child).mapError failing

/-- Starts a program and waits for it. -/
def runProgram (run : Command → State → State) (name : String) (args : List String) (s : State) :
    State :=
  match s.launched run name args with
  | .ok after =>
    let s := s.rejoin after
    if '/' ∈ name.toList || name ∈ s.known then s else { s with known := s.known ++ [name] }
  | .error (fault, status) => s.complain (s.notFound name fault) status

/-- Puts a program in the place of the shell. Without one, only what was changed for it stays. -/
def replaceShell (run : Command → State → State) (args : List String) (s : State) : State :=
  match args with
  | [] => s.withStatus 0
  | name :: rest =>
    match s.launched run name rest with
    | .ok after =>
      let s := { s with machine := after.machine, status := after.status, traps := [] }
      match after.flow with
      | .overdue | .killed _ => s.endWith after.flow
      | _ => s.endWith .exits
    | .error (fault, status) => s.giveUp (s.notFound name fault) status

/-- Runs a command of the shell. -/
def runBuiltIn (run : Command → State → State) (name : String) (args : List String) (s : State) :
    State :=
  match name with
  | "eval" => runText run false (" ".intercalate args) { s with strict := false }
  | "exec" => replaceShell run args s
  | "type" => BuiltIn.describe true args s
  | "command" =>
    BuiltIn.withOptions ['p', 'v', 'V'] [] args s fun given names =>
      if given.any (·.1 ∈ ['v', 'V']) then
        BuiltIn.describe (given.any (·.1 = 'V')) (names.take 1) s
      else s.withStatus 0
  | name =>
    if name = "." || name = "source" then
      match args with
      | [] =>
        if s.family = .plain then s.withStatus 0 else s.complain "filename argument required" 2
      | target :: _ => source run target s
    else
      match BuiltIn.table.lookup name with
      | some act => act args s
      | none => s.withStatus 127

/-- Does what a command asks for, after its assignments were made. -/
def doTask (run : Command → State → State) (task : Task) (s : State) : State :=
  match task with
  | .nothing => s.withStatus s.inner
  | .function body args => call run body args s
  | .program name args => runProgram run name args s
  | .builtIn name strict args =>
    let after := runBuiltIn run name args { s with subject := some name, strict }
    { after with subject := s.subject, strict := s.strict }

/-- Runs a simple command: its words are put in place, its descriptors are redirected, and its
assignments are made, which last only as long as it runs unless it is a special one. -/
def runSimple (run : Command → State → State) (assignments : List Assignment)
    (words : List (List Piece)) (redirections : List Redirection) (s : State) : State :=
  let before := s
  let (fields, s) := expandWords run words { s with inner := 0 }
  let s := { s with machine := s.machine.handle ((fields.map (·.length)).foldl (· + ·) 0) }
  let (targets, s) := expandTargets run wordDepth redirections s
  if !s.goesOn then s
  else
    let task := s.taskOf fields false
    let special := task.isSpecial s.family
    match openTargets targets s with
    | (opened, some refusal) =>
      let s := { opened.complain refusal s.redirectionStatus with descriptors := s.descriptors }
      if special && s.family = .plain then s.endWith .exits else s.checked
    | (opened, none) =>
      let lasts := special || (task matches .nothing)
      let leaves := task.exec?.any (!·.isEmpty)
      let (assigned, ready) := assignAll run (!lasts || leaves) assignments opened
      let ready := trace before assigned fields ready
      let after := if ready.goesOn then doTask run task ready else ready
      let after := if lasts then after
        else assigned.reverse.foldl (fun s (name, _) => s.restore name (opened.find? name)) after
      let after := if task.exec?.isSome then after
        else { after with descriptors := s.descriptors }
      after.checked

/-! ## Loops -/

/-- What a loop does after a round: goes on with the next one, or ends. -/
def afterRound (s : State) : State × Bool :=
  match s.flow with
  | .next => (s, true)
  | .breaks n => (s.endWith (if n ≤ 1 then .next else .breaks (n - 1)), false)
  | .continues n =>
    if n ≤ 1 then (s.endWith .next, true) else (s.endWith (.continues (n - 1)), false)
  | _ => (s, false)

/-- Repeats a body as long as a condition comes out as `goOn`. The status is that of the last
round. -/
def repeatWhile (run : Command → State → State) (condition : Command) (goOn : Bool)
    (body : Command) : Nat → Nat → State → State
  | 0, _, s => s.endWith .overdue
  | n + 1, last, s =>
    let (s, more) := afterRound (s.whileTested (run condition))
    if !more then if s.goesOn then s.withStatus last else s
    else if (s.status = 0) ≠ goOn then s.withStatus last
    else
      let (s, more) := afterRound (run body s)
      if more then repeatWhile run condition goOn body n s.status s else s

/-- Runs a body for each of some words, which a variable gets one after the other. -/
def runForEach (run : Command → State → State) (name : String) (body : Command) :
    List String → State → State
  | [], s => s
  | word :: rest, s =>
    if s.isFixed name then s.giveUp (name ++ ": is read only") 2
    else
      let (s, more) := afterRound (run body (s.assign name word))
      if more then runForEach run name body rest s else s

/-- Runs the body of the first branch with a pattern that covers a text. -/
def runSelect (run : Command → State → State) (text : String) : List Branch → State → State
  | [], s => s.withStatus 0
  | .mk patterns body :: rest, s =>
    let (covered, s) := patterns.foldl (fun (covered, s) pattern =>
      if covered || !s.goesOn then (covered, s)
      else
        let (marks, s) := expandMarks run wordDepth pattern s
        (globCovers marks text.toList, s)) (false, s)
    if !s.goesOn then s
    else if covered then
      match body with
      | .skip => s.withStatus 0
      | body => run body s
    else runSelect run text rest s

/-! ## Processes side by side -/

/-- Does a process that never ended still write in the second half of its time? It is then taken to
write on. -/
def wroteLate (machine : Machine) (stream started : Nat) : Bool :=
  match machine.streams[stream]? with
  | some (.collector (chunk :: _)) => started + (machine.clock - started) / 2 ≤ chunk.time
  | _ => false

/-- Runs two commands side by side, of which the second reads what the first one writes. -/
def runPipe (run : Command → State → State) (a b : Command) (s : State) : State :=
  let started := s.machine.clock
  let (machine, stream) := s.machine.opening (.collector [])
  let left := { s with machine }.part.redirect 1 (some stream)
  let left := finish run (run a left)
  let isOver := left.flow = .overdue
  let writesOn := isOver && wroteLate left.machine stream started
  let machine := { (left.machine.turnToSource stream writesOn).refill with clock := started }
  let right := { s with machine }.part.redirect 0 (some stream)
  let right := if isOver && !writesOn then right else finish run (run b right)
  let stop := if isOver then right.machine.clock
    else Nat.max left.machine.clock right.machine.clock
  let s := match left.flow with
    | .killed signal => { s with machine := right.machine }.announce signal
    | _ => { s with machine := right.machine }
  let s := s.rejoin { right with machine := { s.machine with clock := stop } }
  if isOver && !writesOn then s.endWith .overdue else s

/-- The descriptors that still lead to what the first process prints, once a command that runs as a
process of its own has redirected some. -/
def heldBy (descriptors : List (Nat × Nat)) : Command → List Nat
  | .simple _ _ _ redirections | .redirected _ _ redirections =>
    let after := redirections.foldl (fun (ds : List (Nat × Nat)) redirection =>
      let others (d : Nat) := ds.filter (·.1 ≠ d)
      match redirection with
      | .file d .. | .document d _ => others d
      | .copy d word =>
        let source := ((plainText? word).bind number?).bind fun n => ds.lookup n
        others d ++ (source.map fun stream => (d, stream)).toList) descriptors
    (after.filter (·.2 < 2)).map (·.1)
  | _ => (descriptors.filter (·.2 < 2)).map (·.1)

/-- Runs a command while the shell goes on. What it does is done at once, at the times when it would
have been done. -/
def runBackground (run : Command → State → State) (a : Command) (s : State) : State :=
  let started := s.machine.clock
  let (machine, null) := s.machine.opening .null
  let inner := { s with machine, tested := false }.part.redirect 0 (some null)
  let after := finish run (run a inner)
  let stop := if after.flow = .overdue then Nat.max s.machine.deadline after.machine.clock
    else after.machine.clock
  let job : Job :=
    { process := inner.process, stop, status := after.ending
      holds := !(heldBy s.descriptors a).isEmpty }
  { s with
    machine := { after.machine.refill with
      clock := started
      jobs := after.machine.jobs ++ [job] }
    children := s.children ++ [inner.process]
    lastJob := some inner.process
    status := 0 }

/-! ## All commands -/

/-- What a command does, if `run` is what the commands in it do. -/
def step (run : Command → State → State) (command : Command) (s : State) : State :=
  match command with
  | .skip => s.withStatus 0
  | .simple line assignments words redirections =>
    runSimple run assignments words redirections { s with line }
  | .redirected line a redirections =>
    let (targets, s) := expandTargets run wordDepth redirections { s with line }
    if s.goesOn then s.withTargets targets (run a) else s
  | .pipe a b => (runPipe run a b s).checked
  | .not a =>
    let s := s.whileTested (run a)
    match s.flow with
    | .exits | .killed _ | .overdue => s
    | _ => s.withStatus (if s.status = 0 then 1 else 0)
  | .and a b =>
    let s := s.whileTested (run a)
    if s.goesOn && s.status = 0 then run b s else s
  | .or a b =>
    let s := s.whileTested (run a)
    if s.goesOn && s.status ≠ 0 then run b s else s
  | .seq a b =>
    let s := run a s
    if s.goesOn then run b s else s
  | .background a => runBackground run a s
  | .choose condition yes no =>
    let s := s.whileTested (run condition)
    if !s.goesOn then s else run (if s.status = 0 then yes else no) s
  | .loop condition goOn body =>
    let after := repeatWhile run condition goOn body (s.machine.steps + 1) 0
      { s with loops := s.loops + 1 }
    { after with loops := s.loops }
  | .forEach line name words body =>
    let s := { s with line }
    let (fields, s) := match words with
      | some words => expandFields run wordDepth words s
      | none => (s.arguments, s)
    if !s.goesOn then s
    else
      let after := runForEach run name body fields { s.withStatus 0 with loops := s.loops + 1 }
      { after with loops := s.loops }
  | .select line word branches =>
    let (text, s) := expandText run wordDepth word { s with line }
    if s.goesOn then runSelect run text branches s else s
  | .subshell line a =>
    let s := { s with line }
    (s.rejoin (finish run (run a s.part))).checked
  | .define line name body =>
    let others := s.functions.filter (·.1 ≠ name)
    { s.withStatus 0 with line, functions := others ++ [(name, body)] }

/-- Runs a command, with so many levels of commands inside each other. Every command takes one of
those that the machine has left. -/
def run : Nat → Command → State → State
  | 0, _, s => s.endWith .overdue
  | depth + 1, command, s =>
    if !s.goesOn then s
    else if s.machine.steps = 0 then s.endWith .overdue
    else if 'n' ∈ s.options then s
    else
      let s := { s with machine := s.machine.spend 1 }
      handleSignals (run depth) (step (run depth) command s)

end State

end PodMesh.Host.Shell
