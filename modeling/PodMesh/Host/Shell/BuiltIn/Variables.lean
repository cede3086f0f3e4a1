import PodMesh.Host.Shell.BuiltIn.Printing

/-!
# Commands of the shell about variables

Variables, arguments and options of a shell are set, shown and taken away, and filled with
what is read.
-/

namespace PodMesh.Host.Shell

/-- A name with the value behind its equals sign, if there is one. -/
def nameAndValue (text : String) : String × Option String :=
  match Text.splitOnce '=' text.toList with
  | some (name, value) => (String.ofList name, some (String.ofList value))
  | none => (text, none)

namespace State

/-- A variable gets a value for good, unless its name is none or it cannot be changed. -/
def assign? (s : State) (name value : String) : Except String State :=
  if !isName name then .error (name ++ ": bad variable name")
  else if s.isFixed name then .error (name ++ ": is read only")
  else .ok (s.assign name value)

end State

namespace BuiltIn

/-- Goes through arguments as long as nothing is wrong with one. -/
def each (act : String → State → Except String State) (args : List String) (s : State) : State :=
  match args.foldlM (fun s arg => act arg s) s with
  | .ok s => s.withStatus 0
  | .error words => s.refuse words

/-- Variables as a script that sets them, each behind a word. -/
def listing (word : String) (all : List Variable) : String :=
  let sorted := all.mergeSort fun a b => a.name ≤ b.name
  String.join (sorted.map fun v => word ++ v.name ++ (match v.value with
    | some value => "=" ++ quoted value
    | none => "") ++ "\n")

/-- Variables get a mark, and a value if one is given. -/
def mark (word : String) (change : Variable → Variable) (marked : Variable → Bool)
    (args : List String) (s : State) : State :=
  withOptions ['p'] [] args s fun _ args =>
    if args.isEmpty then s.say (listing (word ++ " ") (s.assigned.filter marked)) 0
    else
      each (fun arg s => do
        let (name, value) := nameAndValue arg
        let s ← match value with
          | some value => s.assign? name value
          | none => if isName name then .ok s else .error (name ++ ": bad variable name")
        return s.put (change ((s.find? name).getD { name, value := none }))) args s

def exportVariables : List String → State → State :=
  mark "export" (fun v => { v with exported := true }) (·.exported)

def fix : List String → State → State :=
  mark "readonly" (fun v => { v with fixed := true }) (·.fixed)

/-- A function gets variables of its own. -/
def makeLocal (args : List String) (s : State) : State :=
  match s.frames with
  | [] => s.refuse "not in a function"
  | _ =>
    each (fun arg s => do
      let (name, value) := nameAndValue arg
      if !isName name then throw (name ++ ": bad variable name")
      let s := match s.frames with
        | frame :: more => { s with frames := ((name, s.find? name) :: frame) :: more }
        | [] => s
      match value with
      | some value => s.assign? name value
      | none => return s) args s

/-- Takes away variables, or functions. -/
def unset (args : List String) (s : State) : State :=
  withOptions ['f', 'v'] [] args s fun given args =>
    each (fun name s =>
      if given.any (·.1 = 'f') then
        .ok { s with functions := s.functions.filter (·.1 ≠ name) }
      else if !isName name then .error (name ++ ": bad variable name")
      else if s.isFixed name then .error (name ++ ": is read only")
      else .ok (s.remove name)) args s

/-- Leaves out the first arguments. -/
def shift (args : List String) (s : State) : State :=
  match args with
  | [] => go 1
  | arg :: _ =>
    match State.number? arg with
    | some n => go n
    | none => s.refuse ("Illegal number: " ++ arg)
where
  go (n : Nat) : State :=
    if s.arguments.length < n then
      if s.family = .plain then s.refuse "can't shift that many" else s.withStatus 1
    else { s with arguments := s.arguments.drop n, status := 0 }

/-! ## Options -/

/-- The options of a shell, by letter and name. Some have a name only. -/
def shellOptions : List (Option Char × String) :=
  [(some 'e', "errexit"), (some 'f', "noglob"), (some 'I', "ignoreeof"),
    (some 'i', "interactive"), (some 'm', "monitor"), (some 'n', "noexec"), (some 's', "stdin"),
    (some 'x', "xtrace"), (some 'v', "verbose"), (some 'V', "vi"), (some 'E', "emacs"),
    (some 'C', "noclobber"), (some 'a', "allexport"), (some 'b', "notify"), (some 'u', "nounset"),
    (some 'p', "privileged"), (none, "nolog"), (none, "debug")]

/-- The letters of options that are on, with one of them turned on or off. They stand in one
order. -/
def turn (letter : Char) (on : Bool) (letters : List Char) : List Char :=
  let all := shellOptions.filterMap (·.1)
  all.filter fun c => if c = letter then on else c ∈ letters

/-- Is a letter one of an option? -/
def isOption (letter : Char) : Bool := shellOptions.any (·.1 = some letter)

/-- Turns an option on or off by its name; none if there is no such option. -/
def turnNamed? (name : String) (on : Bool) (letters : List Char) : Option (List Char) :=
  (shellOptions.find? (·.2 = name)).map fun (letter, _) =>
    match letter with
    | some letter => turn letter on letters
    | none => letters

/-- All options, for reading or as a script. -/
def optionList (asScript : Bool) (letters : List Char) : String :=
  let lines := shellOptions.map fun (letter, name) =>
    let on := letter.any (· ∈ letters)
    if asScript then "set " ++ (if on then "-o " else "+o ") ++ name ++ "\n"
    else name ++ String.ofList (List.replicate (16 - name.length) ' ') ++
      (if on then "on" else "off") ++ "\n"
  (if asScript then "" else "Current option settings\n") ++ String.join lines

/-- Sets options and arguments. Without either, all variables are shown. -/
def set (args : List String) (s : State) : State :=
  if args.isEmpty then s.say (listing "" (s.assigned.filter (·.value.isSome))) 0
  else go args (s.withStatus 0)
where
  go : List String → State → State
    | [], s => s
    | arg :: rest, s =>
      match arg.toList with
      | ['-', '-'] => { s with arguments := rest, letters := (1, 0) }
      | ['-'] =>
        let s := { s with options := turn 'x' false (turn 'v' false s.options) }
        if rest.isEmpty then s else { s with arguments := rest }
      | [sign, 'o'] =>
        if sign = '-' || sign = '+' then
          match rest with
          | [] => s.say (optionList (sign = '+') s.options) 0
          | name :: rest =>
            match turnNamed? name (sign = '-') s.options with
            | some options => go rest { s with options }
            | none => s.refuse ("Illegal option -o " ++ name)
        else { s with arguments := arg :: rest }
      | sign :: letters =>
        if sign = '-' || sign = '+' then
          match letters.find? fun c => !isOption c && c ≠ 'o' with
          | some c => s.refuse ("Illegal option -" ++ String.ofList [c])
          | none =>
            let s := letters.foldl (fun s c =>
              { s with options := if c = 'o' then s.options else turn c (sign = '-') s.options }) s
            if 'o' ∈ letters then
              match rest with
              | [] => s.say (optionList (sign = '+') s.options) 0
              | name :: rest =>
                match turnNamed? name (sign = '-') s.options with
                | some options => go rest { s with options }
                | none => s.refuse ("Illegal option -o " ++ name)
            else go rest s
        else { s with arguments := arg :: rest }
      | [] => { s with arguments := arg :: rest }

/-! ## Reading -/

/-- A line as it is read: its characters, of which some are taken literally, whether it ended with a
newline, and what is left behind it. A backslash makes a character literal, and joins lines. -/
def readLine (raw : Bool) : List Char → List (Char × Bool) × Bool × List Char
  | [] => ([], false, [])
  | '\n' :: rest => ([], true, rest)
  | '\x00' :: rest => readLine raw rest
  | '\\' :: c :: rest =>
    if raw then
      let (line, ended, left) := readLine raw (c :: rest)
      (('\\', false) :: line, ended, left)
    else
      let (line, ended, left) := readLine raw rest
      (if c = '\n' then line else (c, true) :: line, ended, left)
  | c :: rest =>
    let (line, ended, left) := readLine raw rest
    (if c = '\\' && !raw then line else (c, false) :: line, ended, left)

/-- The first field of a line, and what follows its separator. -/
def firstField (separators : List Char) (line : List (Char × Bool)) :
    List (Char × Bool) × List (Char × Bool) :=
  let separates (c : Char × Bool) : Bool := c.1 ∈ separators && !c.2
  let isBlank (c : Char × Bool) : Bool := separates c && c.1 ∈ [' ', '\t', '\n']
  let field := line.takeWhile (!separates ·)
  let rest := (line.drop field.length).dropWhile isBlank
  match rest with
  | c :: more => if separates c then (field, more.dropWhile isBlank) else (field, rest)
  | [] => (field, [])

/-- Variables get the fields of a line, the last one all that is left. One separator at its end does
not count, if nothing else is left but one field. -/
def distribute (separators : List Char) : List String → List (Char × Bool) → List (String × String)
  | [], _ => []
  | [name], line =>
    let separates (c : Char × Bool) : Bool := c.1 ∈ separators && !c.2
    let isBlank (c : Char × Bool) : Bool := separates c && c.1 ∈ [' ', '\t', '\n']
    let trimmed := (line.reverse.dropWhile isBlank).reverse
    let (field, rest) := firstField separators trimmed
    let kept := if rest.isEmpty then field else trimmed
    [(name, String.ofList (kept.map (·.1)))]
  | name :: names, line =>
    let (field, rest) := firstField separators line
    (name, String.ofList (field.map (·.1))) :: distribute separators names rest

/-- Reads a line into variables. It fails at the end of the input. -/
def read (args : List String) (s : State) : State :=
  withOptions ['r'] ['p', 't'] args s fun given names =>
    if names.isEmpty then s.refuse "arg count"
    else
      let raw := given.any (·.1 = 'r')
      let input := s.input
      let (line, ended, left) := readLine raw input.text
      if !ended && input.endless then s.endWith .overdue
      else
        let s := s.leave left
        let isBlank (c : Char × Bool) : Bool :=
          !c.2 && c.1 ∈ s.separators && c.1 ∈ [' ', '\t', '\n']
        let values := distribute s.separators names (line.dropWhile isBlank)
        match values.foldlM (fun s (name, value) => s.assign? name value) s with
        | .ok s => s.withStatus (if ended then 0 else 1)
        | .error words => s.refuse words

/-! ## Options of scripts -/

/-- Gives the next option of some arguments to a variable, by the letters of options, of which those
before a colon take a value. It fails behind the last one. -/
def nextOption (args : List String) (s : State) : State :=
  match args with
  | letters :: name :: given =>
    let words := if given.isEmpty then s.arguments else given
    let quiet := letters.toList.head? = some ':'
    let (index, seen) := s.letters
    -- The word under way is the one before the next, if letters of it are left.
    let current := if seen = 0 then [] else ((words[index - 2]?).getD "").toList.drop seen
    let finish (s : State) (letter : Char) (value : Option String) (index seen status : Nat) :
        State :=
      let s := match value with
        | some value => s.assign "OPTARG" value
        | none => s.remove "OPTARG"
      let s := { s.assign "OPTIND" (toString index) with letters := (index, seen) }
      match s.assign? name (String.ofList [letter]) with
      | .ok s => s.withStatus status
      | .error words => s.refuse words
    let ended (index : Nat) : State := finish s '?' (s.get? "OPTARG") index 0 1
    let take (c : Char) (rest : List Char) (index seen : Nat) : State :=
      let letter := String.ofList [c]
      let onward := if rest.isEmpty then 0 else seen + 1
      match if c = ':' then [] else letters.toList.dropWhile (· ≠ c) with
      | _ :: ':' :: _ =>
        if !rest.isEmpty then finish s c (some (String.ofList rest)) index 0 0
        else
          match words[index - 1]? with
          | some value => finish s c (some value) (index + 1) 0 0
          | none =>
            if quiet then finish s ':' (some letter) index 0 0
            else finish (s.printError ("No arg for -" ++ letter ++ " option\n")) '?' none index 0 0
      | _ :: _ => finish s c (some "") index onward 0
      | [] =>
        if quiet then finish s '?' (some letter) index onward 0
        else finish (s.printError ("Illegal option -" ++ letter ++ "\n")) '?' none index onward 0
    match current with
    | c :: rest => take c rest index seen
    | [] =>
      match (words[index - 1]?).map String.toList with
      | some ['-', '-'] => ended (index + 1)
      | some ('-' :: c :: rest) => take c rest (index + 1) 1
      | _ => ended index
  | _ => s.refuse "Usage: getopts optstring var [arg...]"

end BuiltIn

end PodMesh.Host.Shell
