import PodMesh.Host.Shell.Arithmetic
import PodMesh.Host.Shell.Glob
import PodMesh.Host.Shell.State

/-!
# Words in use

What a word stands for when a command is run: parameters, the output of commands and
arithmetic are put in their places, and what came of them outside quotes falls into fields
and may name files. How commands are run is given from outside.
-/

namespace PodMesh.Host.Shell

/-- A part of a word in use. -/
inductive Atom where
  /-- A character. It may be a sign of a pattern where it is not quoted, and may separate fields
  where it was put in place of something. -/
  | char (c : Char) (quoted splits : Bool)
  /-- Nothing, but quoted, which makes a field all the same. -/
  | nothing
  /-- The border between two arguments. -/
  | border
  deriving DecidableEq, Repr

/-- The atoms of a text. -/
def atoms (text : String) (quoted : Bool) : List Atom :=
  if quoted && text.isEmpty then [.nothing] else text.toList.map (.char · quoted !quoted)

/-! ## Fields -/

/-- Fields under way. -/
structure Fields where
  /-- The complete ones, the last first. -/
  complete : List (List Mark) := []
  /-- The one under way, its last mark first. -/
  current : Option (List Mark) := none
  /-- A separator that is no blank has just ended a field, or nothing has come yet. -/
  closed : Bool := true

namespace Fields

def endField (f : Fields) : Fields :=
  match f.current with
  | some marks => { f with complete := marks.reverse :: f.complete, current := none }
  | none => f

def add (f : Fields) (mark : Option Mark) : Fields :=
  { f with current := some (mark.toList ++ f.current.getD []) }

/-- A separator comes. A blank one only ends a field; another one also makes an empty one. -/
def separate (f : Fields) (blank : Bool) : Fields :=
  if blank then
    if f.current.isSome then { f.endField with closed := false } else f
  else if f.current.isSome then { f.endField with closed := true }
  else if f.closed then { f with complete := [] :: f.complete }
  else { f with closed := true }

def feed (separators : List Char) (f : Fields) : Atom → Fields
  | .nothing => f.add none
  | .border => { f.endField with closed := true }
  | .char c quoted splits =>
    if splits && c ∈ separators then f.separate (c ∈ [' ', '\t', '\n'])
    else f.add (some ⟨c, quoted⟩)

end Fields

/-- The fields that atoms fall into. -/
def fieldsOf (separators : List Char) (all : List Atom) : List (List Mark) :=
  (all.foldl (Fields.feed separators) {}).endField.complete.reverse

/-- The marks of atoms that make one field. -/
def marksOf (all : List Atom) : List Mark :=
  all.filterMap fun a => match a with
    | .char c quoted _ => some ⟨c, quoted⟩
    | .nothing => none
    | .border => some ⟨' ', true⟩

def textOf (marks : List Mark) : String := String.ofList (marks.map Mark.char)

/-! ## Changes -/

/-- A text without the shortest or the longest start that a pattern covers. -/
def cutStart (longest : Bool) (pattern : List Mark) (text : List Char) : List Char :=
  let lengths := List.range (text.length + 1)
  let lengths := if longest then lengths.reverse else lengths
  match lengths.find? fun n => globCovers pattern (text.take n) with
  | some n => text.drop n
  | none => text

def cutEnd (longest : Bool) (pattern : List Mark) (text : List Char) : List Char :=
  let lengths := List.range (text.length + 1)
  let lengths := if longest then lengths else lengths.reverse
  match lengths.find? fun n => globCovers pattern (text.drop n) with
  | some n => text.take n
  | none => text

/-! ## Expansion -/

namespace State

/-- The atoms of all arguments. Between quotes a star joins them. -/
def argumentAtoms (s : State) (star quoted : Bool) : List Atom :=
  if star && quoted then
    let joint := match s.separators with
      | c :: _ => String.ofList [c]
      | [] => ""
    atoms (joint.intercalate s.arguments) true
  else
    let each := s.arguments.map fun a => atoms a quoted
    [Atom.border].intercalate each

/-- What a command prints, run in a part of the shell, without the newlines at its end. -/
def outputOf (run : Command → State → State) (body : Command) (s : State) : String × State :=
  let (machine, stream) := s.machine.opening (.collector [])
  let inner := ({ s with machine, tested := false }).redirect 1 (some stream)
  let after := run (.subshell s.line body) inner
  let text := (after.machine.collected stream).toList.filter (· ≠ '\x00')
  let kept := (text.reverse.dropWhile (· = '\n')).reverse
  (String.ofList kept,
    { s with
      machine := after.machine
      inner := after.status
      flow := if after.flow = .overdue then .overdue else s.flow })

/-- The number that the value of a variable writes, for arithmetic. -/
def arithmeticValue (s : State) (name : String) : Except Arithmetic.Fault Int :=
  match s.parameter? name with
  | none => if 'u' ∈ s.options then .error (.notSet name) else .ok 0
  | some text =>
    let cs := text.toList.dropWhile fun c => c = ' ' || ('\t' ≤ c && c ≤ '\r')
    let (negative, digits) := match cs with
      | '-' :: rest => (true, rest)
      | '+' :: rest => (false, rest)
      | rest => (false, rest)
    let (n, rest) := Arithmetic.numberOf digits
    if cs.isEmpty then .ok 0
    else if digits.head?.any Char.isDigit &&
        rest.all fun c => c = ' ' || ('\t' ≤ c && c ≤ '\r') then
      .ok (if negative then -n else n)
    else .error (.illegalNumber text)

/-- The value of an arithmetic expression. -/
def compute (s : State) (expression : String) : String × State :=
  match Arithmetic.evaluate s.arithmeticValue expression with
  | .ok (n, assigned) =>
    (toString n, assigned.foldl (fun s (name, value) => s.assign name (toString value)) s)
  | .error fault => ("", s.giveUp (fault.message expression) 2)

/-- The name of the folder that a user is at home in. -/
def home? (s : State) (user : String) : Option String :=
  if user.isEmpty then s.get? "HOME" else if user = "root" then some "/root" else none

/-- Pieces with a tilde at their start put in place. -/
def withHome (s : State) (pieces : List Piece) : List Piece :=
  match pieces with
  | .text ('~' :: rest) false :: more =>
    let ends (c : Char) : Bool := c = '/' || c = ':'
    let user := rest.takeWhile (!ends ·)
    let whole := user.length = rest.length && !more.isEmpty
    match if whole then none else s.home? (String.ofList user) with
    | some home =>
      .text home.toList true :: .text (rest.drop user.length) false :: more
    | none => pieces
  | _ => pieces

/-- Pieces of a value with tildes put in place, also behind colons. -/
def withHomes (s : State) (pieces : List Piece) : List Piece :=
  (s.withHome pieces).flatMap fun piece =>
    match piece with
    | .text chars false =>
      match Text.splitOn ':' chars with
      | [] => [piece]
      | first :: rest =>
        .text first false :: rest.flatMap fun part =>
          .text [':'] false :: s.withHome [.text part false]
    | piece => [piece]

mutual

/-- The atoms of pieces. Text outside quotes separates fields only in the word of a change. Every
word inside another one takes a step. -/
def expand (run : Command → State → State) : Nat → Bool → List Piece → State → List Atom × State
  | 0, _, _, s => ([], s)
  | n + 1, inner, pieces, s =>
    pieces.foldl (fun (done, s) piece =>
      if !s.goesOn then (done, s)
      else
        let (more, s) := match piece with
          | .text chars quoted =>
            if quoted && chars.isEmpty then ([.nothing], s)
            else (chars.map (.char · quoted (inner && !quoted)), s)
          | .parameter name change word quoted => expandParameter run n name change word quoted s
          | .substitution body quoted =>
            let (text, s) := outputOf run body s
            (atoms text quoted, s)
          | .arithmetic expression quoted =>
            let (marks, s) := expand run n false expression s
            let (text, s) := s.compute (textOf (marksOf marks))
            (atoms text quoted, s)
        (done ++ more, s)) ([], s)

/-- The atoms of a parameter. -/
def expandParameter (run : Command → State → State) :
    Nat → String → Change → List Piece → Bool → State → List Atom × State
  | 0, _, _, _, _, s => ([], s)
  | n + 1, name, change, word, quoted, s =>
    let isAll := name = "@" || name = "*"
    let value := if isAll then
        if s.arguments.isEmpty then none else some (" ".intercalate s.arguments)
      else s.parameter? name
    let shown (s : State) : List Atom :=
      if isAll then s.argumentAtoms (name = "*") quoted
      else atoms ((s.parameter? name).getD "") quoted
    let plain : List Atom × State :=
      if value.isNone && !isAll && 'u' ∈ s.options then
        ([], s.giveUp (name ++ ": parameter not set") 2)
      else (shown s, s)
    let missing (orEmpty : Bool) : Bool := value.isNone || (orEmpty && value = some "")
    let wordText (s : State) : String × State :=
      let (all, s) := expand run n false word s
      (textOf (marksOf all), s)
    let cut (f : List Mark → List Char → List Char) : List Atom × State :=
      if value.isNone && 'u' ∈ s.options then plain
      else
        let (all, s) := expand run n false word s
        (atoms (String.ofList (f (marksOf all) (value.getD "").toList)) quoted, s)
    match change with
    | .plain => plain
    | .bad => ([], s.giveUp "Bad substitution" 2)
    | .length =>
      if value.isNone && !isAll && 'u' ∈ s.options then plain
      else (atoms (toString (value.getD "").length) quoted, s)
    | .default orEmpty => if missing orEmpty then expand run n true word s else (shown s, s)
    | .replace notEmpty => if missing notEmpty then ([], s) else expand run n true word s
    | .assign orEmpty =>
      if missing orEmpty then
        let (text, s) := wordText s
        if !s.goesOn then ([], s)
        else if !isName name then ([], s.giveUp (name ++ ": bad variable name") 2)
        else if s.isFixed name then ([], s.giveUp (name ++ ": is read only") 2)
        else (atoms text quoted, s.assign name text)
      else (shown s, s)
    | .complain orEmpty =>
      if missing orEmpty then
        let (text, s) := wordText s
        let words := if !word.isEmpty then text
          else "parameter not set" ++ if orEmpty then " or null" else ""
        if s.goesOn then ([], s.giveUp (name ++ ": " ++ words) 2) else ([], s)
      else (shown s, s)
    | .cutStart longest => cut (cutStart longest)
    | .cutEnd longest => cut (cutEnd longest)

end

/-- The marks of a word that makes one field. -/
def expandMarks (run : Command → State → State) (n : Nat) (word : List Piece) (s : State) :
    List Mark × State :=
  let (all, s) := expand run n false (s.withHome word) s
  (marksOf all, s)

/-- The text of a word that makes one field. -/
def expandText (run : Command → State → State) (n : Nat) (word : List Piece) (s : State) :
    String × State :=
  let (marks, s) := expandMarks run n word s
  (textOf marks, s)

/-- The text of a word that is the value of a variable. -/
def expandValue (run : Command → State → State) (n : Nat) (word : List Piece) (s : State) :
    String × State :=
  let (all, s) := expand run n false (s.withHomes word) s
  (textOf (marksOf all), s)

/-- The fields of words. -/
def expandFields (run : Command → State → State) (n : Nat) (words : List (List Piece))
    (s : State) : List String × State :=
  words.foldl (fun (done, s) word =>
    if !s.goesOn then (done, s)
    else
      let (all, s) := expand run n false (s.withHome word) s
      let fields := fieldsOf s.separators all
      let named := fields.flatMap fun marks =>
        if isPattern marks && 'f' ∉ s.options then
          match matchingNames s.files marks with
          | [] => [textOf marks]
          | names => names
        else [textOf marks]
      (done ++ named, s)) ([], s)

end State

end PodMesh.Host.Shell
