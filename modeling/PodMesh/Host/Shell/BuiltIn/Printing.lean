import PodMesh.Host.Program.Printing
import PodMesh.Host.Shell.State

/-!
# Commands of the shell that print or compare

What the shell does itself where a program of the same name would do nearly the same.
-/

namespace PodMesh.Host.Shell.BuiltIn

/-- Options that stand in front of arguments, of which some take a value, and the arguments behind
them. Two dashes end the options. -/
def options (plain valued : List Char) : List String →
    Except String (List (Char × String) × List String)
  | [] => .ok ([], [])
  | arg :: rest =>
    match arg.toList with
    | ['-', '-'] => .ok ([], rest)
    | '-' :: c :: cs => letters arg rest (c :: cs)
    | _ => .ok ([], arg :: rest)
where
  letters (arg : String) (rest : List String) : List Char →
      Except String (List (Char × String) × List String)
    | [] => options plain valued rest
    | c :: cs =>
      if c ∈ valued then
        match cs, rest with
        | [], [] => .error ("No arg for -" ++ String.ofList [c] ++ " option")
        | [], value :: rest =>
          (options plain valued rest).map fun (given, args) => ((c, value) :: given, args)
        | cs, rest =>
          (options plain valued rest).map fun (given, args) =>
            ((c, String.ofList cs) :: given, args)
      else if c ∈ plain then
        (letters arg rest cs).map fun (given, args) => ((c, "") :: given, args)
      else .error ("Illegal option -" ++ String.ofList [c])

/-- Goes on with the options and the other arguments, or complains about them. -/
def withOptions (plain valued : List Char) (args : List String) (s : State)
    (go : List (Char × String) → List String → State) : State :=
  match options plain valued args with
  | .ok (given, rest) => go given rest
  | .error words => s.refuse words

/-- A text between single quotes. A quote in it stands between double ones. -/
def quoted (text : String) : String :=
  go (text.toList.splitBy fun a b => (a = '\'') = (b = '\''))
where
  go (parts : List (List Char)) : String :=
    if parts.isEmpty then "''"
    else String.join (parts.map fun part =>
      let part := String.ofList part
      if part.toList.head? = some '\'' then "\"" ++ part ++ "\"" else "'" ++ part ++ "'")

/-- Prints its arguments, with the escapes in them resolved. -/
def echo (args : List String) (s : State) : State :=
  match s.family with
  | .extended => s.say (Program.echoed args) 0
  | .plain =>
    let (newline, args) := if args.head? = some "-n" then ("", args.drop 1) else ("\n", args)
    let text := " ".intercalate args
    let (out, ends) := Escapes.resolve (Escapes.ofArgument .builtIn) text.length text.toList
    s.say (String.ofList out ++ if ends then "" else newline) 0

/-- Prints its arguments by a format. What is wrong is told before anything is printed. -/
def printf (args : List String) (s : State) : State :=
  withOptions [] [] args s fun _ args =>
    match args with
    | [] => s.refuse "usage: printf format [arg ...]"
    | format :: args =>
      let printed := Format.print .builtIn format args
      let s := printed.foldl (fun s p => match p with
        | .text _ => s
        | .fault fault => s.complain (fault.message .builtIn) 0) s
      let text := printed.filterMap fun p => match p with
        | .text chars => some (String.ofList chars)
        | .fault _ => none
      s.say (String.join text) (Format.status .builtIn printed)

/-- Tells by its status whether a condition holds. -/
def test (brackets : Bool) (args : List String) (s : State) : State :=
  if brackets && args.getLast? ≠ some "]" then
    s.refuse (if s.family = .plain then "missing ]" else "missing \x60]'")
  else
    match Condition.holds s.files (if brackets then args.dropLast else args) with
    | .ok answer => s.withStatus (if answer then 0 else 1)
    | .error fault => s.refuse fault.message

end PodMesh.Host.Shell.BuiltIn
