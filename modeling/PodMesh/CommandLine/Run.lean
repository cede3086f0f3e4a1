import PodMesh.Cluster.Document
import PodMesh.CommandLine.Help
import PodMesh.Host.Launch
import PodMesh.Pattern.Reading

/-!
# Runs of the program

The whole program as a function of its arguments and the files around it: what it prints
and the status it ends with. Everything that is said goes to the error output, a line
each; lines after the first of a notice are indented.
-/

namespace PodMesh.CommandLine

/-- Why a check gives no clean result. -/
inductive RunFault where
  | load (fault : Cluster.LoadFault)
  | pattern (fault : Pattern.Fault)
  | inquiry (fault : PodMesh.Fault)
  | wrong (results : Nat)
  deriving DecidableEq, Repr

/-- Why a check gives no clean result, in words. What is wrong with a document is told without
the line and the column, and what is wrong with a pattern by the kind of the fault alone. -/
def RunFault.message : RunFault → String
  | .load fault => fault.message
  | .pattern fault => "regex parse error: " ++ fault.message
  | .inquiry fault => fault.message
  | .wrong n => decimal n ++ " wrong results"

/-- The result of a check by what was found: it is clean if there is nothing wrong. -/
def conclusion : Finding → Except RunFault Unit
  | .error fault => .error (.inquiry fault)
  | .ok 0 => .ok ()
  | .ok n => .error (.wrong n)

namespace Settings

/-- The test of the pods to leave alone. -/
def exclusion (s : Settings) : Except Pattern.Fault (Option (String → Bool)) :=
  match s.excluded with
  | none => .ok none
  | some text => (Pattern.read text).map fun p => some p.occursIn

/-- The pool that starts client commands on the host. -/
def hostPool (s : Settings) (config : Kubectl.Config) : Pool Host.Files :=
  Pool.make (Kubectl.prober Host.launch config) (some s.workers)

/-- Makes a check on a loaded cluster with the pool for a configuration, and tells what is said
about it. -/
def checkCluster {σ : Type} (s : Settings) (pool : Kubectl.Config → Pool σ) (memory : σ)
    (cluster : Cluster) : Except RunFault Unit × List Notice :=
  match s.exclusion with
  | .error fault => (.error (.pattern fault), [])
  | .ok test =>
    let (cluster, excluded) := cluster.excluding test
    match Kubectl.Config.ofWords s.kubectl s.context s.limit with
    | .error fault => (.error (.inquiry fault), excluded)
    | .ok config =>
      let (finding, world) := (pool config).inquire cluster s.inquiry { memory }
      (conclusion finding, excluded ++ world.journal.filterMap Entry.notice?)

/-- Makes a check, and tells what is said about it. -/
def check {σ : Type} (s : Settings) (pool : Kubectl.Config → Pool σ) (memory : σ)
    (files : Host.Files) : Except RunFault Unit × List Notice :=
  let start : Notice := .initializing programName programVersion
  match Cluster.load files s.model with
  | (.error fault, notices) => (.error (.load fault), start :: notices)
  | (.ok cluster, notices) =>
    let (result, more) := s.checkCluster pool memory cluster
    (result, start :: notices ++ more)

end Settings

/-! ## Output -/

/-- What the program prints, and the status it ends with. -/
structure Result where
  status : Nat
  stdout : String := ""
  stderr : String := ""
  deriving DecidableEq, Repr

/-- A notice as it is printed. -/
def printed (n : Notice) : String :=
  "\n    ".intercalate ((Text.splitOn '\n' n.line.toList).map String.ofList) ++ "\n"

/-- The notices that are printed at a level. -/
def log (level : Level) (notices : List Notice) : String :=
  String.join ((notices.filter fun n => n.level.rank ≤ level.rank).map printed)

/-- The line about what a run ends with. -/
def errorLine (message : String) : String := "Error: " ++ message ++ "\n"

/-- What comes of arguments that give no settings to go by. -/
def stopped : Stop → Result
  | .wish .help => { status := 0, stdout := helpText ++ "\n" }
  | .wish .version => { status := 0, stdout := versionText ++ "\n" }
  | .fault fault =>
    { status := 1
      stderr := fault.message ++ "\n\n" ++ usage ++ "\n\nFor more information try --help\n" }

/-- The message of values that give no settings. That of a value takes a line of its own. -/
def settingLine : SettingFault → String
  | .value fault => errorLine (fault.message ++ "\n")
  | .rule fault => errorLine fault.message

/-- The words in arguments that may name files of the current folder. -/
def fileNames (arguments : List String) : List String :=
  let pieces := arguments.flatMap fun a =>
    Text.words (a.toList.map fun c => if c = '=' then ' ' else c)
  ((pieces.map String.ofList).filter fun w => '/' ∉ w.toList).eraseDups

/-- Runs the program. -/
def run (files : Host.Files) (arguments : List String) : Result :=
  match matchAll parameters arguments with
  | .error stop => stopped stop
  | .ok given =>
    match Settings.ofMatches given with
    | .error fault => { status := 1, stderr := settingLine fault }
    | .ok settings =>
      match settings.check settings.hostPool files files with
      | (.ok (), notices) => { status := 0, stderr := log settings.level notices }
      | (.error fault, notices) =>
        { status := 1, stderr := log settings.level notices ++ errorLine fault.message }

end PodMesh.CommandLine
