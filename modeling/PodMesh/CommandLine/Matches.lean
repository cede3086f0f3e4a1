import PodMesh.CommandLine.Parameter
import PodMesh.Text.Line

/-!
# What a command line gives

How the arguments of a command line are told apart: which name a parameter, which are
values, and what each parameter is given in the end. A parameter with a long name may
have its value behind an equals sign, one with a short name right behind the letter; all
other values are arguments of their own. An argument that starts with a dash is never the
value of anything, unless it is nothing but the dash.
-/

namespace PodMesh.CommandLine

/-- What a parameter was given: how often it was named, and its values in order. -/
structure Given where
  occurrences : Nat := 0
  values : List String := []
  deriving DecidableEq, Repr

/-- What each named parameter was given. -/
abbrev Matches := List (String × Given)

namespace Matches

def get (m : Matches) (name : String) : Given :=
  ((m.find? fun (known, _) => known = name).map (·.2)).getD {}

def modify (m : Matches) (name : String) (change : Given → Given) : Matches :=
  (name, change (m.get name)) :: m.filter fun (known, _) => known ≠ name

def addValue (m : Matches) (p : Parameter) (value : String) : Matches :=
  m.modify p.name fun g => { g with values := g.values ++ [value] }

def addOccurrence (m : Matches) (p : Parameter) : Matches :=
  m.modify p.name fun g => { g with occurrences := g.occurrences + 1 }

/-- Was a parameter named? -/
def isPresent (m : Matches) (name : String) : Bool := 0 < (m.get name).occurrences

/-- The first value of a parameter. -/
def value? (m : Matches) (name : String) : Option String := (m.get name).values.head?

/-- Does a parameter still lack values? -/
def lacks (m : Matches) (p : Parameter) : Bool :=
  if p.repeatable then (m.get p.name).values.length % p.values.length ≠ 0
  else (m.get p.name).values.isEmpty

end Matches

/-- A wish that ends the reading of a command line. -/
inductive Wish where
  | help
  | version
  deriving DecidableEq, Repr

/-- Why there is nothing to match: a wish came first, or a fault. -/
inductive Stop where
  | wish (wish : Wish)
  | fault (fault : Fault)
  deriving DecidableEq, Repr

/-- What the next argument may be: nothing but a name, that and no value any more, or a value. -/
inductive Awaiting where
  | name
  | nameAfterValue
  | value (parameter : Parameter)
  deriving DecidableEq, Repr

/-- The flags that every command line has. -/
def wishes : List (Parameter × Wish) :=
  [({ name := "help", short := some 'h', help := "Prints help information" }, .help),
    ({ name := "version", short := some 'V', help := "Prints version information" }, .version)]

/-- Arguments read so far. -/
structure Reading where
  awaiting : Awaiting := .name
  /-- Two dashes were read, after which nothing is a name any more. -/
  trailing : Bool := false
  given : Matches := []

namespace Reading

/-- A parameter is named, perhaps with a value. A value given along with a long name is all that the
parameter gets. -/
def name (r : Reading) (p : Parameter) (value : Option String) (equals : Bool) : Reading :=
  match value with
  | some value =>
    let given := (r.given.addValue p value).addOccurrence p
    let more := p.repeatable && !equals && given.lacks p
    { r with given, awaiting := if more then .value p else .nameAfterValue }
  | none => { r with given := r.given.addOccurrence p, awaiting := .value p }

/-- A flag is named. -/
def flag (r : Reading) (p : Parameter) : Reading :=
  { r with given := r.given.addOccurrence p, awaiting := .name }

def dropEquals (cs : List Char) : String := String.ofList (cs.dropWhile (· = '='))

/-- A long name without its dashes. A value behind a flag does not count. -/
def long (ps : List Parameter) (r : Reading) (cs : List Char) : Except Stop Reading :=
  let (name, value) := match Text.splitOnce '=' cs with
    | some (name, value) => (String.ofList name, some (dropEquals value))
    | none => (String.ofList cs, none)
  match ps.find? fun p => p.name = name with
  | some p => .ok (if p.isFlag then r.flag p else r.name p value value.isSome)
  | none =>
    match wishes.find? fun (p, _) => p.name = name with
    | some (_, wish) => .error (.wish wish)
    | none => .error (.fault (.unexpected ("--" ++ name)))

/-- Short names without their dash: flags, and perhaps a parameter at the end whose value follows
it. -/
def short (ps : List Parameter) (r : Reading) : List Char → Except Stop Reading
  | [] => .ok r
  | c :: rest =>
    match ps.find? fun p => p.short = some c with
    | some p =>
      if p.isFlag then short ps (r.flag p) rest
      else
        let equals := rest.head? = some '='
        .ok (r.name p (if rest.isEmpty then none else some (dropEquals rest)) equals)
    | none =>
      match wishes.find? fun (p, _) => p.short = some c with
      | some (_, wish) => .error (.wish wish)
      | none => .error (.fault (.unexpected ("-" ++ String.ofList [c])))

/-- One argument. -/
def feed (ps : List Parameter) (r : Reading) (argument : String) : Except Stop Reading :=
  let unexpected : Except Stop Reading := .error (.fault (.unexpected argument))
  if r.trailing then unexpected
  else
    match argument.toList with
    | ['-', '-'] => .ok { r with trailing := true }
    | '-' :: '-' :: cs => r.long ps (cs.dropWhile (· = '-'))
    | '-' :: c :: cs => r.short ps (c :: cs)
    | _ =>
      match r.awaiting with
      | .value p =>
        let given := r.given.addValue p argument
        let more := given.lacks p
        .ok { r with given, awaiting := if more then .value p else .nameAfterValue }
      | _ => unexpected

end Reading

/-- Gives a parameter without values its default. -/
def addDefault (m : Matches) (p : Parameter) : Matches :=
  match p.default with
  | some value => if (m.get p.name).values.isEmpty then m.addValue p value else m
  | none => m

/-- The first fault in what a parameter was given. -/
def faultOf? (m : Matches) (p : Parameter) : Option Fault :=
  let given := m.get p.name
  let strange : Option Fault := p.choices.bind fun choices =>
    (given.values.find? (· ∉ choices)).map fun value => .notAChoice value p choices
  let often : Option Fault :=
    if 1 < given.occurrences && !p.repeatable then some (.repeated p) else none
  if p.isFlag then often
  else if given = {} then none
  else if p.repeatable && m.lacks p then
    some (.wrongCount p (given.values.length % p.values.length))
  else if given.values.isEmpty then some (.noValue p)
  else strange.or often

/-- What a command line gives, by the parameters there are. A parameter left without its value at
the very end comes before all other faults but those of absent parameters. -/
def matchAll (ps : List Parameter) (arguments : List String) : Except Stop Matches := do
  let r ← arguments.foldlM (Reading.feed ps) {}
  let given := ps.foldl addDefault r.given
  let absent := ps.filter fun p => p.required && given.get p.name = {}
  if !absent.isEmpty then throw (.fault (.absent absent))
  if let .value p := r.awaiting then
    if (given.get p.name).values.isEmpty then throw (.fault (.noValue p))
  match ps.findSome? (faultOf? given) with
  | some fault => throw (.fault fault)
  | none => return given

end PodMesh.CommandLine
