import PodMesh.Host.Program.Edit
import PodMesh.Host.Program.Folders
import PodMesh.Host.Program.Printing
import PodMesh.Host.Program.Unseen

/-!
# Programs

The programs that a host has, by their names. Those that start other programs belong to the
shell and are only named here.
-/

namespace PodMesh.Host.Program

/-- The programs that do their work alone, by name. -/
def alone : List (String × (Call → Effect)) :=
  [("[", test), ("basename", basename), ("cat", cat), ("chmod", chmod), ("cp", cp), ("cut", cut),
    ("dirname", dirname), ("echo", echo), ("egrep", grep), ("expr", expr),
    ("false", fun _ => { status := 1 }), ("fgrep", grep), ("grep", grep), ("head", head),
    ("id", id), ("ls", ls), ("mkdir", mkdir), ("mv", mv), ("nl", nl), ("paste", paste),
    ("printenv", printenv), ("printf", printf), ("pwd", pwd), ("rev", rev), ("rm", rm),
    ("rmdir", rmdir), ("sed", sed), ("seq", seq), ("sleep", sleep), ("sort", sort),
    ("tac", tac), ("tail", tail), ("tee", tee), ("test", test), ("touch", touch), ("tr", tr),
    ("true", fun _ => {}), ("uname", uname), ("uniq", uniq), ("wc", wc), ("which", which),
    ("whoami", whoami), ("yes", yes)]

/-- The programs that start others: shells, and programs that change how another one is run. -/
def starters : List String :=
  ["bash", "dash", "env", "nice", "nohup", "sh", "timeout", "xargs"]

/-- The programs that are there to be found, of which nothing is known. -/
def others : List String := ["awk", "find", "gzip", "hostname", "perl", "ps", "stty", "tar"]

def names : List String := alone.map (·.1) ++ starters ++ unseen.map (·.1) ++ others

/-- What comes of starting a program that starts no other one. -/
def run? (program : String) (call : Call) : Option Effect :=
  match alone.lookup program with
  | some run => some (run call)
  | none =>
    (unseen.lookup program).map fun (plain, valued, status) => runUnseen plain valued status call

end PodMesh.Host.Program
