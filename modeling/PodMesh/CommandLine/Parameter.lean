/-!
# Parameters of a command line

What a command line may say: parameters with values, and flags without. The faults of
command lines are kept here too, since most of them show a parameter as users write it.
-/

namespace PodMesh.CommandLine

/-- One parameter. Without names of values it is a flag. -/
structure Parameter where
  name : String
  short : Option Char := none
  /-- What users call its values, one name for each. -/
  values : List String := []
  /-- It may be given more than once. -/
  repeatable : Bool := false
  required : Bool := false
  default : Option String := none
  /-- The only values there are, if there is a choice. -/
  choices : Option (List String) := none
  help : String
  deriving DecidableEq, Repr

namespace Parameter

def isFlag (p : Parameter) : Bool := p.values.isEmpty

/-- The parameter as users write it. -/
def shown (p : Parameter) : String :=
  " ".intercalate (("--" ++ p.name) :: p.values.map fun v => "<" ++ v ++ ">")

end Parameter

/-- Why a command line is refused. -/
inductive Fault where
  | unexpected (argument : String)
  | noValue (parameter : Parameter)
  | wrongCount (parameter : Parameter) (given : Nat)
  /-- A value that is no choice. The choices are told in order of their letters. -/
  | notAChoice (value : String) (parameter : Parameter) (choices : List String)
  | repeated (parameter : Parameter)
  | absent (parameters : List Parameter)
  /-- A value that stands for nothing. -/
  | meaningless (value : String)
  /-- A value that is no number. -/
  | noNumber (value : String)
  /-- A rule with one side only. -/
  | halfRule (side : String)
  deriving DecidableEq, Repr

namespace Fault

/-- The fault in words. -/
def text : Fault → String
  | .unexpected argument =>
    "Found argument '" ++ argument ++ "' which wasn't expected, or isn't valid in this context"
  | .noValue p => "The argument '" ++ p.shown ++ "' requires a value but none was supplied"
  | .wrongCount p given =>
    "The argument '" ++ p.shown ++ "' requires " ++ toString p.values.length ++ " values, but " ++
      toString given ++ (if given = 1 then " was" else " were") ++ " provided"
  | .notAChoice value p choices =>
    "'" ++ value ++ "' isn't a valid value for '" ++ p.shown ++ "'\n\t[possible values: " ++
      ", ".intercalate (choices.mergeSort (· ≤ ·)) ++ "]\n"
  | .repeated p =>
    "The argument '" ++ p.shown ++
      "' was provided more than once, but cannot be used multiple times"
  | .absent ps =>
    "The following required arguments were not provided:" ++
      String.join (ps.map fun p => "\n    " ++ p.shown)
  | .meaningless value => "invalid argument value '" ++ value ++ "'"
  | .noNumber value => "Invalid value: The argument '" ++ value ++ "' isn't a valid value"
  | .halfRule side => "rule '" ++ side ++ "' is missing its destination"

/-- The message of a fault. -/
def message (f : Fault) : String := "error: " ++ f.text

end Fault

end PodMesh.CommandLine
