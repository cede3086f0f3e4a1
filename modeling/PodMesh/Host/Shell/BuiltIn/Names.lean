import PodMesh.Host.Shell.BuiltIn.Printing

/-!
# Commands of the shell about names

What names stand for: folders, programs, and commands that go by other names.
-/

namespace PodMesh.Host.Shell

namespace State

/-- What a name stands for that can be run, and by what name it is found. A name without a slash is
looked for in the folders of the search path. -/
def lookUp (s : State) (name : String) : Except FileFault (String × Files.Runnable) :=
  let attempt (path : String) : Except FileFault (String × Files.Runnable) :=
    (s.files.runnable (Text.Octets.toText path)).map fun found => (path, found)
  if '/' ∈ name.toList then attempt name
  else
    let folders := (Text.splitOn ':' ((s.get? "PATH").getD "").toList).map String.ofList
    let tries := folders.map fun folder =>
      attempt ((if folder.isEmpty then "." else folder) ++ "/" ++ name)
    match tries.findSome? Except.toOption with
    | some found => .ok found
    | none =>
      let faults := tries.filterMap fun t => match t with
        | .error .absent | .error .notFolder | .ok _ => none
        | .error fault => some fault
      .error (faults.getLast?.getD .absent)

/-- The words for a name that cannot be run. -/
def notFound (s : State) (name : String) (fault : FileFault) : String :=
  match fault, s.family with
  | .absent, .plain | .notFolder, .plain => name ++ ": not found"
  | .absent, .extended =>
    name ++ if '/' ∈ name.toList then ": No such file or directory" else ": command not found"
  | fault, _ => name ++ ": " ++ fault.words

end State

namespace BuiltIn

/-! ## Folders -/

/-- The current folder by its full name. -/
def folderName (s : State) : String := Text.Octets.ofText (Program.folderName s.files)

/-- Goes to another folder, or to the one at home. A dash stands for the one before. -/
def cd (args : List String) (s : State) : State :=
  withOptions ['L', 'P'] [] args s fun _ args =>
    let (target, shows) := match args with
      | [] => ((s.get? "HOME").getD "", false)
      | "-" :: _ => ((s.get? "OLDPWD").getD "", true)
      | target :: _ => (target, false)
    let place? : Option Place := match target with
      | "" => some s.folder
      | target =>
        match s.files.find (Text.Octets.toText target) with
        | .ok (place, .folder) => some place
        | _ => none
    match place? with
    | none =>
      match s.family with
      | .plain => s.refuse ("can't cd to " ++ target)
      | .extended => s.complain (target ++ ": No such file or directory") 1
    | some folder =>
      let old := { name := "OLDPWD", value := some (folderName s), exported := true : Variable }
      let s := { s with folder }
      let new := { name := "PWD", value := some (folderName s), exported := true : Variable }
      let s := (s.put old).put new
      if shows then s.say (folderName s ++ "\n") 0 else s.withStatus 0

def pwd (args : List String) (s : State) : State :=
  withOptions ['L', 'P'] [] args s fun _ _ => s.say (folderName s ++ "\n") 0

/-! ## Programs -/

/-- Remembers where programs are, or tells which are known. -/
def hash (args : List String) (s : State) : State :=
  withOptions ['r', 'v'] [] args s fun given names =>
    if given.any (·.1 = 'r') then { s.withStatus 0 with known := [] }
    else if names.isEmpty then
      let paths := s.known.filterMap fun name => (s.lookUp name).toOption.map (·.1)
      s.say (String.join (paths.map (· ++ "\n"))) 0
    else
      names.foldl (fun s name =>
        match s.lookUp name with
        | .ok _ => { s with known := s.known.filter (· ≠ name) ++ [name] }
        | .error fault => s.complain (s.notFound name fault) 1) (s.withStatus 0)

/-! ## Other names -/

/-- Gives commands other names, or shows those that there are. -/
def addAliases (args : List String) (s : State) : State :=
  let shown (a : String × String) : String := a.1 ++ "=" ++ quoted a.2 ++ "\n"
  if args.isEmpty then s.say (String.join (s.aliases.map shown)) 0
  else
    args.foldl (fun s arg =>
      match Text.splitOnce '=' arg.toList with
      | some (name, value) =>
        let name := String.ofList name
        let others := s.aliases.filter (·.1 ≠ name)
        { s with aliases := others ++ [(name, String.ofList value)] }
      | none =>
        match s.aliases.lookup arg with
        | some value => s.say (shown (arg, value)) s.status
        | none => (s.printError ("alias: " ++ arg ++ " not found\n")).withStatus 1) (s.withStatus 0)

def dropAliases (args : List String) (s : State) : State :=
  withOptions ['a'] [] args s fun given names =>
    if given.any (·.1 = 'a') then { s.withStatus 0 with aliases := [] }
    else
      names.foldl (fun s name =>
        if (s.aliases.lookup name).isSome then
          { s with aliases := s.aliases.filter (·.1 ≠ name) }
        else (s.printError ("unalias: " ++ name ++ " not found\n")).withStatus 1) (s.withStatus 0)

end BuiltIn

end PodMesh.Host.Shell
