import PodMesh.Host.Program
import PodMesh.Host.Shell.Script

/-!
# Programs that start others

A process that runs a program: one that does its work alone, a shell with its script, or a
program that starts another one in some changed way. The state of a shell stands for the
process; of its variables the exported ones are the environment.
-/

namespace PodMesh.Host.Shell

namespace State

/-- A process that a shell starts. It knows nothing but the environment. -/
def child (s : State) : State :=
  let machine := s.machine.startProcess
  { machine
    family := s.family
    assigned := s.assigned.filter fun v => v.exported && v.value.isSome
    descriptors := s.descriptors
    folder := s.folder
    traps := s.traps.filter fun (signal, action) => signal ≠ 0 && action.isEmpty
    process := machine.processes
    shell := machine.processes
    mask := s.mask }

/-- Puts a variable into the environment. -/
def putEnvironment (s : State) (name value : String) : State :=
  s.put { name, value := some value, exported := true }

/-! ## Programs that do their work alone -/

/-- Does what a program does. Output that leads nowhere is an error of its own. -/
def perform (name : String) (effect : Effect) (s : State) : State :=
  let s := match effect.files with
    | some files => s.withFiles files
    | none => s
  let (s, lost) := effect.outputs.foldl (fun (s, lost) output =>
    match output with
    | .err text => (s.printError text, lost)
    | .out text =>
      match s.write? 1 text with
      | some s => (s, lost)
      | none => (s, lost || !text.isEmpty)) (s, false)
  let s := if lost then s.printError (name ++ ": write error: Bad file descriptor\n") else s
  let s := match effect.left with
    | some left => s.leave left
    | none => s
  let s := (s.withStatus (if lost then 1 else effect.status)).wait effect.millis
  if effect.endless then s.endWith .overdue else s

/-! ## Shells -/

/-- How a shell is asked to start. -/
structure Startup where
  options : List Char := []
  /-- The first operand is the script itself. -/
  isScript : Bool := false
  operands : List String := []

/-- How arguments ask a shell to start, or what is wrong with them. -/
def startup (su : Startup) : List String → Except String Startup
  | [] => .ok su
  | arg :: rest =>
    match arg.toList with
    | ['-'] | ['-', '-'] => .ok { su with operands := rest }
    | sign :: letters =>
      if sign ≠ '-' && sign ≠ '+' then .ok { su with operands := arg :: rest }
      else
        match letters.find? fun c => !BuiltIn.isOption c && c ∉ ['c', 'l', 'o'] with
        | some c => .error ("Illegal option " ++ "-" ++ String.ofList [c])
        | none =>
          let su := letters.foldl (fun su c =>
            if c = 'c' then { su with isScript := true }
            else { su with options := BuiltIn.turn c (sign = '-') su.options }) su
          if 'o' ∈ letters then
            match rest with
            | [] => .ok su
            | name :: rest =>
              match BuiltIn.turnNamed? name (sign = '-') su.options with
              | some options => startup { su with options } rest
              | none => .error ("Illegal option -o " ++ name)
          else startup su rest
    | [] => .ok { su with operands := arg :: rest }

/-- A shell as it starts, with the variables that every shell has. -/
def prepare (s : State) (su : Startup) (name : String) (arguments : List String) : State :=
  let own (s : State) (v : String × String) : State :=
    if (s.find? v.1).isSome then s else s.put { name := v.1, value := some v.2 }
  let path := "/usr/local/sbin:/usr/local/bin:/usr/sbin:/usr/bin:/sbin:/bin"
  let s := [("PATH", path), ("PS1", "# "), ("PS2", "> "), ("PS4", "+ ")].foldl own s
  let s := s.put { name := "IFS", value := some " \t\n" }
  let s := s.put { name := "OPTIND", value := some "1" }
  let s := s.put { name := "PPID", value := some (toString (processNumber 0)) }
  let s := s.putEnvironment "PWD" (BuiltIn.folderName s)
  { s with name, arguments, options := su.options }

/-- Runs a shell: the script that an argument is, that a file holds, or that is read. -/
def runShell (run : Command → State → State) (name : String) (args : List String) (s : State) :
    State :=
  let refuse (words : String) (status : Nat) : State :=
    let front := match s.family with
      | .plain => name ++ ": 0: "
      | .extended => name ++ ": "
    ((s.printError (front ++ words ++ "\n")).withStatus status).endWith .exits
  match startup {} args with
  | .error words =>
    match s.family with
    | .plain => refuse words 2
    | .extended =>
      refuse (String.ofList (words.toList.drop "Illegal option ".length) ++ ": invalid option") 2
  | .ok su =>
    let inTheEnd (isFile : Bool) (s : State) (text : String) : State :=
      finish run (runText run isFile text s)
    match su.operands with
    | [] =>
      if su.isScript then
        match s.family with
        | .plain => refuse "-c requires an argument" 2
        | .extended => refuse "-c: option requires an argument" 2
      else
        let input := s.input
        if input.endless then s.endWith .overdue
        else
          let su := { su with options := BuiltIn.turn 's' true su.options }
          inTheEnd true ((s.leave []).prepare su name []) (String.ofList input.text)
    | first :: rest =>
      if su.isScript then
        match rest with
        | [] => inTheEnd false (s.prepare su name []) first
        | zeroth :: arguments => inTheEnd false (s.prepare su zeroth arguments) first
      else if 's' ∈ su.options then
        let input := s.input
        if input.endless then s.endWith .overdue
        else inTheEnd true ((s.leave []).prepare su name (first :: rest)) (String.ofList input.text)
      else
        match s.files.find (Text.Octets.toText first) with
        | .error fault =>
          match s.family with
          | .plain =>
            let words := if fault ∈ [.absent, .notFolder] then "No such file" else fault.words
            refuse ("cannot open " ++ first ++ ": " ++ words) 2
          | .extended => refuse (first ++ ": " ++ fault.words) 127
        | .ok (_, node) =>
          let text := match node with
            | .file content _ => Text.Octets.ofBytes content
            | _ => ""
          inTheEnd true (s.prepare su first rest) text

/-- The family of a shell, by the name of its program. -/
def family? (program : String) : Option Family :=
  match program with
  | "sh" | "dash" => some .plain
  | "bash" => some .extended
  | _ => none

/-! ## Programs that start one other -/

/-- Complains in the name of a program that starts others. -/
def refuseStart (program words : String) (status : Nat) (s : State) : State :=
  (s.printError (program ++ ": " ++ words ++ "\n")).withStatus status

/-- The same, with a hint. -/
def misuse (program words : String) (status : Nat) (s : State) : State :=
  refuseStart program (words ++ "\nTry '" ++ program ++ " --help' for more information.") status s

/-- The status of a program that another one could not start. -/
def statusOf (fault : FileFault) : Nat :=
  if fault ∈ [.absent, .notFolder] then 127 else 126

/-- Splits what is read for arguments: at blanks, outside quotes. It may end within a quote. -/
def quotedWords : List Char → Option Char → Option (List Char) → Except Char (List String)
  | [], none, current => .ok (current.toList.map fun w => String.ofList w.reverse)
  | [], some quote, _ => .error quote
  | c :: rest, some quote, current =>
    if c = quote then quotedWords rest none (some (current.getD []))
    else if c = '\n' then .error quote
    else quotedWords rest (some quote) (some (c :: current.getD []))
  | '\\' :: c :: rest, none, current => quotedWords rest none (some (c :: current.getD []))
  | c :: rest, none, current =>
    if c = '\'' || c = '"' then quotedWords rest (some c) (some (current.getD []))
    else if c ∈ [' ', '\t', '\n'] then
      (quotedWords rest none none).map fun words =>
        (current.toList.map fun w => String.ofList w.reverse) ++ words
    else quotedWords rest none (some (c :: current.getD []))

/-- A text with every occurrence of another one replaced. Every step takes a character. -/
def replaceAll (what by_ : List Char) : Nat → List Char → List Char
  | 0, text => text
  | _, [] => []
  | n + 1, c :: cs =>
    if !what.isEmpty && what.isPrefixOf (c :: cs) then
      by_ ++ replaceAll what by_ n ((c :: cs).drop what.length)
    else c :: replaceAll what by_ n cs

/-- Arguments that are read, in groups of which each goes to one run of a command. -/
structure Groups where
  given : List Call.Given
  command : List String

/-- The commands that arguments read from a text are to go to, or what is wrong with the text. -/
def Groups.commands (g : Groups) (text : List Char) : Except String (List (List String)) :=
  let nonEmptyLines := ((Text.splitOn '\n' text).map String.ofList).filter (!·.isEmpty)
  let words : Except Char (List String) :=
    if Call.has g.given '0' then .ok (pieces '\x00')
    else
      match Call.value? g.given 'd' with
      | some d => .ok (pieces (if d = "\\n" then '\n' else if d = "\\0" then '\x00'
          else d.toList.headD '\n'))
      | none => quotedWords text none none
  let unmatched (quote : Char) : String :=
    "unmatched " ++ (if quote = '\'' then "single" else "double") ++
      " quote; by default quotes are special to xargs unless you use the -0 option"
  match Call.value? g.given 'I' with
  | some place =>
    .ok (nonEmptyLines.map fun line =>
      let line := line.toList.dropWhile fun c => c = ' ' || c = '\t'
      g.command.map fun word =>
        String.ofList (replaceAll place.toList line (word.length + 1) word.toList))
  | none =>
    let lines := (Call.value? g.given 'L').bind State.number?
    match lines with
    | some n =>
      match nonEmptyLines.mapM fun line => quotedWords line.toList none none with
      | .ok lines => .ok ((groupsOf n lines).map fun group => g.command ++ group.flatten)
      | .error quote => .error (unmatched quote)
    | none =>
      match words with
      | .error quote => .error (unmatched quote)
      | .ok [] => .ok (if Call.has g.given 'r' then [] else [g.command])
      | .ok words =>
        match (Call.value? g.given 'n').bind State.number? with
        | some n => .ok ((groupsOf n words).map (g.command ++ ·))
        | none => .ok [g.command ++ words]
where
  pieces (separator : Char) : List String :=
    let parts := (Text.splitOn separator text).map String.ofList
    if parts.getLast? = some "" then parts.dropLast else parts
  groupsOf {α : Type} (n : Nat) (all : List α) : List (List α) :=
    (List.range ((all.length + Nat.max 1 n - 1) / Nat.max 1 n)).map fun i =>
      (all.drop (i * Nat.max 1 n)).take (Nat.max 1 n)

/-- The status of a command for each group, taken together. Zero, or one to 125, goes on. -/
def groupStatus (before status : Nat) : Nat :=
  if status = 0 then before else 123

mutual

/-- Runs what a name stands for in the environment, with arguments, as a process. Every step takes
an argument. -/
def start (run : Command → State → State) :
    Nat → String → List String → State → Except FileFault State
  | 0, _, _, _ => .error .absent
  | n + 1, name, args, s =>
    let known := if (s.get? "PATH").isSome then s else s.putEnvironment "PATH" "/bin:/usr/bin"
    match if name.isEmpty then .error .absent else known.lookUp name with
    | .error fault => .error fault
    | .ok found => startFound run n name found args s

/-- Runs what was found for a name. -/
def startFound (run : Command → State → State) :
    Nat → String → String × Files.Runnable → List String → State → Except FileFault State
  | 0, _, _, _, _ => .error .absent
  | n + 1, name, found, args, s =>
    match found with
    | (path, .script content) =>
      let text := Text.Octets.ofBytes content
      let head := (text.toList.takeWhile (· ≠ '\n'))
      let words := (Text.splitOn ' ' (head.drop 2)).filter (!·.isEmpty)
      match if "#!".toList.isPrefixOf head then words.map String.ofList else [] with
      | [] => .ok (runShell run "sh" (path :: args) { s with family := .plain })
      | interpreter :: more =>
        let more := if more.isEmpty then [] else [" ".intercalate more]
        start run n interpreter (more ++ path :: args) s
    | (_, .program program) =>
      match family? program with
      | some family => .ok (runShell run name args { s with family })
      | none => .ok (startOther run n program name args s)

/-- Runs a program that is no shell. -/
def startOther (run : Command → State → State) :
    Nat → String → String → List String → State → State
  | 0, _, _, _, s => s
  | n + 1, program, name, args, s =>
    let call : Call :=
      { name, arguments := args, files := s.files, input := s.input, environment := s.environment }
    let withCall (o : Call.Options) (status : Nat) (go : List Call.Given → List String → State) :
        State :=
      match o.split none args with
      | .ok (given, rest) => go given rest
      | .error words => s.misuse name words status
    let inPlace (before : State) (refusal : String → String) : List String → State
      | [] => before
      | target :: rest =>
        match start run n target rest before with
        | .ok after => after
        | .error fault =>
          before.refuseStart name (refusal ("'" ++ target ++ "'") ++ ": " ++ fault.words)
            (statusOf fault)
    match program with
    | "env" =>
      withCall { plain := ['i', '0', 'v'], valued := ['u', 'C', 'S'], leading := true,
                 long := [("ignore-environment", 'i'), ("unset", 'u'), ("null", '0')] } 125
        fun given rest =>
          let dashes := if rest.head? = some "-" then 1 else 0
          let base := if Call.has given 'i' || dashes = 1 then { s with assigned := [] } else s
          let base := (given.filter (·.letter = 'u')).foldl (fun s g => s.remove g.value) base
          let settings := (rest.drop dashes).takeWhile fun w => '=' ∈ w.toList
          let base := settings.foldl (fun s w =>
            let (name, value) := nameAndValue w
            s.putEnvironment name (value.getD "")) base
          match (rest.drop dashes).drop settings.length with
          | [] =>
            let close := if Call.has given '0' then "\x00" else "\n"
            base.perform name (.printing (String.join
              (base.environment.map fun (n, v) => n ++ "=" ++ v ++ close)))
          | target => inPlace base id target
    | "nice" =>
      withCall { valued := ['n'], leading := true, long := [("adjustment", 'n')] } 125
        fun _ rest =>
          if rest.isEmpty then s.perform name (.printing "0\n") else inPlace s id rest
    | "nohup" =>
      withCall { leading := true } 125 fun _ rest =>
        if rest.isEmpty then s.misuse name "missing operand" 125
        else inPlace s ("failed to run command " ++ ·) rest
    | "timeout" =>
      withCall { plain := ['v', 'f', 'p'], valued := ['s', 'k'], leading := true,
                 long := [("signal", 's'), ("kill-after", 'k'), ("verbose", 'v'),
                   ("foreground", 'f'), ("preserve-status", 'p')] } 125
        fun given rest =>
          match rest with
          | [] | [_] =>
            ((s.printError ("Try '" ++ name ++ " --help' for more information.\n")).withStatus
              125)
          | limit :: target :: more =>
            match Program.millis? limit with
            | none => s.misuse name ("invalid time interval '" ++ limit ++ "'") 125
            | some millis =>
              let deadline := s.machine.deadline
              let stop := s.machine.clock + millis
              let inner := if millis = 0 then s
                else { s with machine := { s.machine with deadline := Nat.min deadline stop } }
              match start run n target more inner with
              | .error fault =>
                s.refuseStart name ("failed to run command '" ++ target ++ "': " ++ fault.words)
                  (statusOf fault)
              | .ok after =>
                let machine := { after.machine.refill with deadline }
                if after.flow = .overdue && millis ≠ 0 && stop < deadline then
                  let signal := (Call.value? given 's').bind Signals.number?
                  let machine := { machine with clock := stop }
                  if signal = some 9 then { after with machine, flow := .killed 9 }
                  else { after with machine, flow := .exits, status := 124 }
                else { after with machine }
    | "xargs" =>
      withCall { plain := ['0', 'r', 't', 'x', 'o', 'p'],
                 valued := ['n', 'I', 'L', 'd', 'P', 's', 'a', 'E'], leading := true,
                 long := [("null", '0'), ("no-run-if-empty", 'r'), ("verbose", 't'),
                   ("max-args", 'n'), ("delimiter", 'd'), ("max-procs", 'P')] } 1
        fun given rest =>
          if s.input.endless then s.endWith .overdue
          else
            let command := if rest.isEmpty then ["echo"] else rest
            let text := s.input.text
            let (machine, null) := (s.leave []).machine.opening .null
            let s := ({ s with machine }).redirect 0 (some null)
            match ({ given, command : Groups }).commands text with
            | .error words => s.refuseStart name words 1
            | .ok commands => startEach run n name (Call.has given 't') commands (s.withStatus 0)
    | program =>
      match Program.run? program call with
      | some effect => s.perform name effect
      | none => s.withStatus 0

/-- Runs commands one after the other, up to one that cannot be started or asks to stop. -/
def startEach (run : Command → State → State) :
    Nat → String → Bool → List (List String) → State → State
  | 0, _, _, _, s => s
  | _, _, _, [], s => s
  | n + 1, name, shown, command :: rest, s =>
    if s.flow ≠ .next then s
    else
      let s := if shown then s.printError (" ".intercalate command ++ "\n") else s
      let target := command.headD ""
      match start run n target (command.drop 1) s.child with
      | .error fault => s.refuseStart name (target ++ ": " ++ fault.words) (statusOf fault)
      | .ok after =>
        let joined := { s with machine := after.machine }
        match after.flow with
        | .overdue => joined.endWith .overdue
        | .killed signal =>
          joined.refuseStart name (target ++ ": terminated by signal " ++ toString signal) 125
        | _ =>
          if after.status % 256 = 255 then
            joined.refuseStart name (target ++ ": exited with status 255; aborting") 124
          else
            startEach run n name shown rest
              (joined.withStatus (groupStatus s.status (after.status % 256)))

end

end State

end PodMesh.Host.Shell
