import PodMesh.Host.Files
import PodMesh.Text.Octets

/-!
# Calls of programs

What a program is given when it starts, and what comes of it: what it prints, what it
leaves of its input, what it changes among the files, how long it waits and how it ends.
All texts are texts of bytes.
-/

namespace PodMesh.Host

/-- What a process can read. -/
structure Input where
  text : List Char := []
  /-- More of the same comes without an end. -/
  endless : Bool := false
  /-- What was read too far can be given back. -/
  seekable : Bool := false
  /-- Why it cannot be read, if it cannot. -/
  fault : Option FileFault := none
  deriving DecidableEq, Repr

/-- A program as it starts. -/
structure Call where
  /-- The name it was called by. -/
  name : String
  arguments : List String
  files : Files
  input : Input := {}
  environment : List (String × String) := []
  deriving DecidableEq, Repr

/-- Something printed, as output or as an error. -/
inductive Output where
  | out (text : String)
  | err (text : String)
  deriving DecidableEq, Repr

/-- What a program does from start to end. -/
structure Effect where
  outputs : List Output := []
  status : Nat := 0
  /-- What is left of the input, if any of it was read. -/
  left : Option (List Char) := none
  /-- How long it waits, in milliseconds. -/
  millis : Nat := 0
  /-- It never ends. -/
  endless : Bool := false
  /-- The files, if it changed any. -/
  files : Option Files := none
  deriving DecidableEq, Repr

namespace Effect

/-- Prints something and succeeds. -/
def printing (text : String) : Effect := { outputs := [.out text] }

def print (e : Effect) (text : String) : Effect := { e with outputs := e.outputs ++ [.out text] }

/-- Goes on with something else. It fails if either does. -/
def next (a b : Effect) : Effect :=
  { outputs := a.outputs ++ b.outputs
    status := Nat.max a.status b.status
    left := b.left.or a.left
    millis := a.millis + b.millis
    endless := a.endless || b.endless
    files := b.files.or a.files }

end Effect

namespace Call

/-- The effect of complaining, in a line that starts with the program's name. -/
def complaint (call : Call) (message : String) (status : Nat) : Effect :=
  { outputs := [.err (call.name ++ ": " ++ message ++ "\n")], status }

/-- A name as it stands in a complaint: between quotes if the shell would read it otherwise. -/
def shown (name : String) : String :=
  let chars := name.toList
  let strange (c : Char) : Bool := c ∈ " !\"$&()*;<=>[^\x60|?\\:\n\t".toList
  if chars.isEmpty || chars.any strange || chars.head? = some '#' || chars.head? = some '~' then
    "'" ++ name ++ "'"
  else if '\'' ∈ chars then "\"" ++ name ++ "\""
  else name

/-- The name of a file as the host knows it. -/
def fileName (name : String) : String := Text.Octets.toText name

/-- How many zeros a read takes from a file of zeros. -/
def zerosRead : Nat := 131072

/-- What a name leads to. -/
def open? (call : Call) (name : String) : Except FileFault Input :=
  if name = "/dev/stdin" then .ok call.input
  else
    match call.files.find (fileName name) with
    | .ok (_, .zeros) => .ok { text := List.replicate zerosRead '\x00', endless := true }
    | _ =>
      match call.files.read (fileName name) with
      | .ok bytes => .ok { text := (Text.Octets.ofBytes bytes).toList, seekable := true }
      | .error fault => .error fault

/-- What a name leads to, where a dash stands for the input. -/
def openDash? (call : Call) (name : String) : Except FileFault Input :=
  if name ≠ "-" then call.open? name
  else
    match call.input.fault with
    | some fault => .error fault
    | none => .ok call.input

/-- What is left of the input once names were read to the end. -/
def leftBy (call : Call) (names : List String) : Option (List Char) :=
  if names.any fun n => n = "-" || n = "/dev/stdin" then
    some (if call.input.endless then call.input.text else [])
  else none

/-! ## Options -/

/-- An option that was given, by its letter, with its value. -/
structure Given where
  letter : Char
  value : String := ""
  deriving DecidableEq, Repr

/-- What options a program has: letters, letters that take a value, and the letters that long names
stand for. -/
structure Options where
  plain : List Char := []
  valued : List Char := []
  long : List (String × Char) := []
  /-- What comes behind the first operand is no option. -/
  leading : Bool := false

/-- What one argument that starts with a dash gives: options, and whether the last one of them takes
its value from the next argument. -/
def Options.cluster (o : Options) : List Char → Except String (List Given × Bool)
  | [] => .ok ([], false)
  | c :: cs =>
    if c ∈ o.plain then (o.cluster cs).map fun (given, open_) => (⟨c, ""⟩ :: given, open_)
    else if c ∈ o.valued then .ok ([⟨c, String.ofList cs⟩], cs.isEmpty)
    else .error ("invalid option -- '" ++ String.ofList [c] ++ "'")

/-- What one argument that starts with two dashes gives. A start of a name will do. -/
def Options.named (o : Options) (argument : List Char) : Except String (List Given × Bool) :=
  let (name, value) := match Text.splitOnce '=' argument with
    | some (name, value) => (name, some (String.ofList value))
    | none => (argument, none)
  let exact := o.long.find? fun (known, _) => known.toList = name
  match exact.or (o.long.find? fun (known, _) => name.isPrefixOf known.toList) with
  | none => .error ("unrecognized option '--" ++ String.ofList argument ++ "'")
  | some (_, letter) =>
    .ok ([⟨letter, value.getD ""⟩], letter ∈ o.valued && value.isNone)

/-- Splits arguments into options and operands, or tells why they cannot be. An option may wait for
its value. -/
def Options.split (o : Options) : Option Given → List String →
    Except String (List Given × List String)
  | some given, [] =>
    .error ("option requires an argument -- '" ++ String.ofList [given.letter] ++ "'")
  | some given, value :: rest =>
    (o.split none rest).map fun (more, operands) => ({ given with value } :: more, operands)
  | none, [] => .ok ([], [])
  | none, arg :: rest => do
    let options (found : Except String (List Given × Bool)) :
        Except String (List Given × List String) := do
      let (given, waits) ← found
      let waiting := if waits then given.getLast? else none
      let (more, operands) ← o.split waiting rest
      return ((if waits then given.dropLast else given) ++ more, operands)
    match arg.toList with
    | ['-', '-'] => return ([], rest)
    | '-' :: '-' :: name => options (o.named name)
    | '-' :: c :: cs => options (o.cluster (c :: cs))
    | _ =>
      if o.leading then return ([], arg :: rest)
      let (given, operands) ← o.split none rest
      return (given, arg :: operands)

/-- Runs a program on its options and operands, or has it complain about them. -/
def withOptions (call : Call) (o : Options) (status : Nat)
    (run : List Given → List String → Effect) : Effect :=
  match o.split none call.arguments with
  | .ok (given, operands) => run given operands
  | .error message =>
    { outputs := [.err (call.name ++ ": " ++ message ++ "\nTry '" ++ call.name ++
        " --help' for more information.\n")]
      status }

/-- Complains that an operand is missing, with a hint. -/
def missing (call : Call) (message : String) (status : Nat) : Effect :=
  { outputs := [.err (call.name ++ ": " ++ message ++ "\nTry '" ++ call.name ++
      " --help' for more information.\n")]
    status }

/-- Was an option given? -/
def has (given : List Given) (letter : Char) : Bool := given.any (·.letter = letter)

/-- The value of an option, the last one given. -/
def value? (given : List Given) (letter : Char) : Option String :=
  (given.reverse.find? (·.letter = letter)).map (·.value)

end Call

end PodMesh.Host
