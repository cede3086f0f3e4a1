import PodMesh.Host.Effect

/-!
# Programs that change files

Programs that list folders, and that make, move and remove files and folders.
-/

namespace PodMesh.Host.Program

open Call (fileName has shown)

/-- A name between quotes. -/
def quoted (name : String) : String := "'" ++ name ++ "'"

/-- Does something with one name after the other, each of which may change the files. -/
def eachName (call : Call) (names : List String) (use : Files → String → Except Effect Files) :
    Effect :=
  let step (state : Effect × Files) (name : String) : Effect × Files :=
    match use state.2 name with
    | .ok files => (state.1, files)
    | .error complaint => (state.1.next complaint, state.2)
  let (effect, files) := names.foldl step ({}, call.files)
  { effect with files := some files }

/-- Removes files and, where asked for, folders with all they hold. -/
def rm (call : Call) : Effect :=
  let options : Call.Options :=
    { plain := ['r', 'R', 'f', 'i', 'v', 'd', 'I'],
      long := [("recursive", 'r'), ("force", 'f'), ("verbose", 'v'), ("dir", 'd')] }
  call.withOptions options 1 fun given names =>
    let recursive := has given 'r' || has given 'R'
    if names.isEmpty && !has given 'f' then call.missing "missing operand" 1
    else
      eachName call names fun files name =>
        let refuse (words : String) : Except Effect Files :=
          .error (call.complaint ("cannot remove " ++ quoted name ++ ": " ++ words) 1)
        match files.find (fileName name) with
        | .error .absent =>
          if has given 'f' then .ok files else refuse FileFault.absent.words
        | .error fault => refuse fault.words
        | .ok (place, .folder) =>
          if recursive then .ok (files.remove place)
          else if has given 'd' then
            if (files.entries place).isEmpty then .ok (files.remove place)
            else refuse FileFault.notEmpty.words
          else refuse FileFault.isFolder.words
        | .ok (place, _) => .ok (files.remove place)

/-- Removes folders that hold nothing. -/
def rmdir (call : Call) : Effect :=
  call.withOptions { plain := ['p', 'v'] } 1 fun _ names =>
    if names.isEmpty then call.missing "missing operand" 1
    else
      eachName call names fun files name =>
        let refuse (words : String) : Except Effect Files :=
          .error (call.complaint ("failed to remove " ++ quoted name ++ ": " ++ words) 1)
        match files.find (fileName name) with
        | .error fault => refuse fault.words
        | .ok (place, .folder) =>
          if (files.entries place).isEmpty then .ok (files.remove place)
          else refuse FileFault.notEmpty.words
        | .ok _ => refuse FileFault.notFolder.words

/-- Makes a folder, and those that lead to it where asked for. -/
def makeFolder (files : Files) (parents : Bool) (name : String) : Except FileFault Files :=
  let chars := name.toList
  let kept := String.ofList ((chars.reverse.dropWhile (· = '/')).reverse)
  let kept := if kept.isEmpty then name else kept
  match files.locate kept with
  | .ok (place, none) => .ok (files.put place .folder)
  | .ok (_, some .folder) => if parents then .ok files else .error .present
  | .ok _ => .error .present
  | .error fault => .error fault

/-- The names of the folders that lead to a name, and the name. -/
def leading (name : String) : List String :=
  let steps := Text.splitOn '/' name.toList
  (List.range steps.length).filterMap fun i =>
    let front := ['/'].intercalate (steps.take (i + 1))
    if front.isEmpty then none else some (String.ofList front)

/-- Makes folders. -/
def mkdir (call : Call) : Effect :=
  call.withOptions { plain := ['p', 'v'], valued := ['m'], long := [("parents", 'p')] } 1
    fun given names =>
    if names.isEmpty then call.missing "missing operand" 1
    else
      eachName call names fun files name =>
        let made := if has given 'p' then
            (leading (fileName name)).foldlM (fun files n => makeFolder files true n) files
          else makeFolder files false (fileName name)
        made.mapError fun fault =>
          call.complaint ("cannot create directory " ++ quoted name ++ ": " ++ fault.words) 1

/-- Makes files where there are none. -/
def touch (call : Call) : Effect :=
  call.withOptions { plain := ['a', 'm', 'c', 'f', 'h'], valued := ['d', 't', 'r'] } 1
    fun given names =>
    if names.isEmpty then call.missing "missing file operand" 1
    else
      eachName call names fun files name =>
        match files.locate (fileName name) with
        | .ok (_, some _) => .ok files
        | .ok (_, none) =>
          if has given 'c' then .ok files
          else
            match files.create (fileName name) false with
            | .ok (_, files) => .ok files
            | .error fault =>
              .error (call.complaint ("setting times of " ++ quoted name ++ ": " ++ fault.words) 1)
        | .error fault =>
          .error (call.complaint ("cannot touch " ++ quoted name ++ ": " ++ fault.words) 1)

/-- The last step of a name. -/
def lastName (name : String) : String :=
  let kept := (name.toList.reverse.dropWhile (· = '/')).reverse
  String.ofList ((kept.reverse.takeWhile (· ≠ '/')).reverse)

/-- A name for what a source becomes in a target that may be a folder. -/
def targetName (files : Files) (source target : String) : String :=
  match files.find (fileName target) with
  | .ok (_, .folder) => target ++ "/" ++ lastName source
  | _ => target

/-- Copies files, or moves them. -/
def copyOrMove (moves : Bool) (call : Call) : Effect :=
  let options : Call.Options :=
    { plain := ['r', 'R', 'f', 'n', 'v', 'p', 'a', 'i', 'u', 'T'],
      long := [("recursive", 'r'), ("force", 'f')] }
  call.withOptions options 1 fun given names =>
    match names with
    | [] => call.missing "missing file operand" 1
    | [name] => call.missing ("missing destination file operand after " ++ quoted name) 1
    | names =>
      let target := names.getLastD ""
      let several := 2 < names.length
      let isFolder := match call.files.find (fileName target) with
        | .ok (_, .folder) => true
        | _ => false
      if several && !isFolder then
        call.complaint ("target " ++ quoted target ++ ": " ++
          (match call.files.find (fileName target) with
            | .ok _ => FileFault.notFolder.words
            | .error fault => fault.words)) 1
      else
        eachName call names.dropLast fun files name =>
          let aim := targetName files name target
          match files.find (fileName name) with
          | .error fault =>
            .error (call.complaint ("cannot stat " ++ quoted name ++ ": " ++ fault.words) 1)
          | .ok (source, node) =>
            match files.locate (fileName aim) with
            | .error fault =>
              .error (call.complaint ((if moves then "cannot move " ++ quoted name ++ " to "
                else "cannot create regular file ") ++ quoted aim ++ ": " ++ fault.words) 1)
            | .ok (place, _) =>
              if place = source then
                .error (call.complaint (quoted name ++ " and " ++ quoted aim ++
                  " are the same file") 1)
              else if moves then .ok (files.move source place)
              else
                match node with
                | .folder =>
                  if has given 'r' || has given 'R' || has given 'a' then
                    let copies := files.nodes.filterMap fun (p, n) =>
                      if source.isSuffixOf p then
                        some (p.take (p.length - source.length) ++ place, n)
                      else none
                    .ok (copies.foldl (fun files (p, n) => files.put p n) files)
                  else
                    .error (call.complaint ("-r not specified; omitting directory " ++
                      quoted name) 1)
                | .null => .ok (files.put place (.file [] false))
                | node => .ok (files.put place node)

def cp : Call → Effect := copyOrMove false

def mv : Call → Effect := copyOrMove true

/-- Lets files be run as scripts, or not. -/
def chmod (call : Call) : Effect :=
  let options := (call.arguments.takeWhile (· ≠ "--")).filter fun a => a.toList.head? = some '-'
  let letters := options.flatMap fun a => a.toList.drop 1
  let rest := match letters.find? (· ∉ "RcfvrwxXstugoa,+=01234567-".toList) with
    | some c => Except.error c
    | none => .ok (call.arguments.filter fun a =>
      a ≠ "--" && !(a ∈ options && (a.toList.drop 1).all (· ∈ ['R', 'c', 'f', 'v'])))
  match rest with
  | .error c => call.missing ("invalid option -- '" ++ String.ofList [c] ++ "'") 1
  | .ok [] => call.missing "missing operand" 1
  | .ok [mode] => call.missing ("missing operand after " ++ quoted mode) 1
  | .ok (mode :: names) =>
    let chars := mode.toList
    let runs : Option Bool :=
      if chars.all Char.isDigit then
        some (chars.any fun c => (c.toNat - '0'.toNat) % 2 = 1)
      else if 'x' ∈ chars then some ('+' ∈ chars || '=' ∈ chars)
      else none
    eachName call names fun files name =>
      match files.find (fileName name), runs with
      | .ok (place, .file content _), some runs => .ok (files.put place (.file content runs))
      | .ok _, _ => .ok files
      | .error fault, _ =>
        .error (call.complaint ("cannot access " ++ quoted name ++ ": " ++ fault.words) 1)

/-- Lists folders. -/
def ls (call : Call) : Effect :=
  let options : Call.Options :=
    { plain := "1aAbBcCdDfFgGhHiklLmnNopqQrRsStuUvxXZ".toList, valued := ['w', 'I', 'T'],
      long := [("all", 'a'), ("almost-all", 'A'), ("directory", 'd'), ("reverse", 'r')] }
  call.withOptions options 2 fun given names =>
    let names := if names.isEmpty then ["."] else names
    let mark (name : String) (node : Node) : String :=
      if (has given 'F' || has given 'p') && node = .folder then name ++ "/"
      else if has given 'F' && (node matches .file _ true | .program) then name ++ "*"
      else name
    let found := (names.mergeSort (· ≤ ·)).map fun name =>
      (name, call.files.find (fileName name))
    let complaints := names.foldl (fun (e : Effect) name =>
      match call.files.find (fileName name) with
      | .error fault =>
        e.next (call.complaint ("cannot access " ++ quoted name ++ ": " ++ fault.words) 2)
      | .ok _ => e) {}
    let single := found.filterMap fun f => match f.2 with
      | .ok (_, .folder) => if has given 'd' then some f.1 else none
      | .ok (_, node) => some (mark f.1 node)
      | .error _ => none
    let folders := found.filterMap fun f => match f.2 with
      | .ok (place, .folder) => if has given 'd' then none else some (f.1, place)
      | _ => none
    let listing (place : Place) : List String :=
      let all := (call.files.entries place).map fun (n, node) => mark (Text.Octets.ofText n) node
      let all := if has given 'a' || has given 'f' then "." :: ".." :: all
        else if has given 'A' then all
        else all.filter fun n => n.toList.head? ≠ some '.'
      if has given 'r' then all.reverse else all
    let headed := 1 < names.length
    let blocks := folders.map fun (name, place) =>
      (if headed then name ++ ":\n" else "") ++ String.join ((listing place).map (· ++ "\n"))
    let blocks := if single.isEmpty then blocks
      else String.join (single.map (· ++ "\n")) :: blocks
    complaints.print ("\n".intercalate blocks)

end PodMesh.Host.Program
