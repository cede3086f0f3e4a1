import PodMesh.Host.Shell.Expansion

/-!
# Redirections

Where descriptors lead is changed before a command runs: to files, to other descriptors, or
to text that stands in the script.
-/

namespace PodMesh.Host.Shell

/-- What a descriptor is to lead to. -/
inductive Target where
  | file (opening : Opening) (name : String)
  /-- What another descriptor leads to. -/
  | same (descriptor : Nat)
  | nothing
  | text (text : String)
  deriving DecidableEq, Repr

namespace State

/-- What redirections lead to, with their words put in place. -/
def expandTargets (run : Command → State → State) (depth : Nat) (redirections : List Redirection)
    (s : State) : List (Nat × Target) × State :=
  redirections.foldl (fun (done, s) redirection =>
    if !s.goesOn then (done, s)
    else
      match redirection with
      | .file descriptor opening name =>
        let (name, s) := expandText run depth name s
        (done ++ [(descriptor, .file opening name)], s)
      | .copy descriptor word =>
        let (word, s) := expandText run depth word s
        match word.toList with
        | ['-'] => (done ++ [(descriptor, .nothing)], s)
        | [c] =>
          if c.isDigit then (done ++ [(descriptor, .same (c.toNat - '0'.toNat))], s)
          else (done, s.giveUp "Syntax error: Bad fd number" 2)
        | _ => (done, if s.goesOn then s.giveUp "Syntax error: Bad fd number" 2 else s)
      | .document descriptor text =>
        let (text, s) := expandText run depth text s
        (done ++ [(descriptor, .text text)], s)) ([], s)

/-- The descriptor that a file name stands for. -/
def descriptorNamed? (name : String) : Option Nat :=
  match name with
  | "/dev/stdin" => some 0
  | "/dev/stdout" => some 1
  | "/dev/stderr" => some 2
  | name =>
    ["/dev/fd/", "/proc/self/fd/"].findSome? fun front =>
      if front.toList.isPrefixOf name.toList then
        number? (String.ofList (name.toList.drop front.length))
      else none

/-- A stream from or to a file. -/
def openFile (opening : Opening) (name : String) (s : State) :
    Except String (Stream × Files) :=
  let path := Text.Octets.toText name
  let files := s.files
  let isInput := opening = .read
  let refuse {α : Type} (fault : FileFault) : Except String α :=
    .error (match s.family with
      | .extended => name ++ ": " ++ fault.words
      | .plain =>
        let words := if fault ∈ [.absent, .notFolder] then
          if isInput then "No such file" else "Directory nonexistent"
          else fault.words
        "cannot " ++ (if isInput then "open " else "create ") ++ name ++ ": " ++ words)
  let stream (place : Place) : Option Node → Stream
    | some .null => .null
    | some .zeros => .zeros
    | some .program => if isInput then .file place 0 false else .null
    | _ => .file place 0 (opening = .append)
  if isInput then
    match files.find path with
    | .ok (place, node) => .ok (stream place (some node), files)
    | .error fault => refuse fault
  else if opening = .write && 'C' ∈ s.options &&
      (files.find path matches .ok (_, .file ..)) then refuse .present
  else
    match files.create path (opening ∈ [.write, .overwrite]) with
    | .ok (place, files) => .ok (stream place (files.node? place), files)
    | .error fault => refuse fault

/-- Makes a descriptor lead to something, or tells why it cannot. -/
def openTarget (descriptor : Nat) (target : Target) (s : State) : Except String State :=
  let copy (other : Nat) (words : String) : Except String State :=
    match s.stream? other with
    | some stream => .ok (s.redirect descriptor (some stream))
    | none => .error words
  match target with
  | .nothing => .ok (s.redirect descriptor none)
  | .same other => copy other (toString other ++ ": Bad file descriptor")
  | .text text =>
    let (machine, stream) := s.machine.opening (.source text.toList false)
    .ok ({ s with machine }.redirect descriptor (some stream))
  | .file opening name =>
    match descriptorNamed? name with
    | some other =>
      copy other ("cannot " ++ (if opening = .read then "open " else "create ") ++ name ++
        if opening = .read then ": No such file" else ": Directory nonexistent")
    | none =>
      match s.openFile opening name with
      | .ok (stream, files) =>
        let s := s.withFiles files
        let (machine, number) := s.machine.opening stream
        .ok ({ s with machine }.redirect descriptor (some number))
      | .error words => .error words

/-- Makes descriptors lead to targets one after the other, up to one that cannot, for which it has
words. -/
def openTargets : List (Nat × Target) → State → State × Option String
  | [], s => (s, none)
  | (descriptor, target) :: rest, s =>
    match s.openTarget descriptor target with
    | .ok s => openTargets rest s
    | .error words => (s, some words)

/-- The status of a command whose redirections fail. -/
def redirectionStatus (s : State) : Nat := if s.family = .plain then 2 else 1

/-- Runs something with descriptors that lead to targets meanwhile. -/
def withTargets (targets : List (Nat × Target)) (s : State) (go : State → State) : State :=
  match openTargets targets s with
  | (opened, none) => { go opened with descriptors := s.descriptors }
  | (opened, some words) =>
    { opened.complain words s.redirectionStatus with descriptors := s.descriptors }

end State

end PodMesh.Host.Shell
