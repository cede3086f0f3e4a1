import PodMesh.CommandLine.Settings

/-!
# Help

The text that explains the program: how it is called, its flags, and its parameters with
their defaults and choices. Explanations stand in a column of their own and go on in it
where a line gets too long.
-/

namespace PodMesh.CommandLine

/-- How the program is called. -/
def usage : String :=
  "USAGE:\n    " ++ programName ++ " [FLAGS] [OPTIONS] " ++
    " ".intercalate ((parameters.filter (·.required)).map Parameter.shown)

/-- The name and the version of the program. -/
def versionText : String := programName ++ " " ++ programVersion

/-- The greatest length of a line. -/
def lineWidth : Nat := 120

def spaces (n : Nat) : String := String.ofList (List.replicate n ' ')

/-- The default and the choices of a parameter, as its explanation ends. -/
def remarks (p : Parameter) : String :=
  " ".intercalate
    ((p.default.toList.map fun d => " [default: " ++ d ++ "]") ++
      (p.choices.toList.map fun cs => " [possible values: " ++ ", ".intercalate cs ++ "]"))

/-- Words in lines of at most some length, as long as single words allow. -/
def wrap (width : Nat) (words : List String) : List String :=
  match words with
  | [] => []
  | first :: rest => go first rest
where
  go (line : String) : List String → List String
    | [] => [line]
    | word :: rest =>
      if line.length + 1 + word.length ≤ width then go (line ++ " " ++ word) rest
      else line :: go word rest

/-- A parameter with its explanation, in columns that leave room for names of some length. -/
def entry (longest : Nat) (p : Parameter) : String :=
  let short := match p.short with
    | some c => "-" ++ String.ofList [c] ++ ", "
    | none => "    "
  let more := if p.repeatable && p.values.length = 1 then "..." else ""
  let text := p.help ++ remarks p
  let column := longest + 12
  let lines :=
    if column + text.length < lineWidth then [text]
    else wrap (lineWidth - column) ((Text.splitOn ' ' text.toList).map String.ofList)
  "    " ++ short ++ p.shown ++ more ++ spaces (longest - p.shown.length + 4) ++
    ("\n" ++ spaces column).intercalate lines

/-- Entries under a title, in the order of the names they go by. -/
def entries (title : String) (ps : List (String × Parameter)) : String :=
  let longest := (ps.map fun (_, p) => p.shown.length).foldl Nat.max 2
  let sorted := ps.mergeSort fun (a, _) (b, _) => a ≤ b
  title ++ ":\n" ++ "\n".intercalate (sorted.map fun (_, p) => entry longest p)

/-- The whole explanation. The flags that every command line has go by their letters. -/
def helpText : String :=
  let named (ps : List Parameter) : List (String × Parameter) := ps.map fun p => (p.name, p)
  let flags := wishes.map fun (p, _) => (String.ofList (p.name.toList.take 1), p)
  "\n".intercalate [versionText, purpose, "", usage, "",
    entries "FLAGS" (flags ++ named (parameters.filter Parameter.isFlag)), "",
    entries "OPTIONS" (named (parameters.filter fun p => !p.isFlag))]

end PodMesh.CommandLine
