import PodMesh.Host.Files
import PodMesh.Text.Octets

/-!
# Conditions

The conditions of `test`: texts and numbers compared, files looked at, and these combined.
Words are read from the left, and a word is an operator only where it has operands.
-/

namespace PodMesh.Host.Condition

/-- Why a condition has no answer. -/
inductive Fault where
  | badNumber (text : String)
  | noArgument (operator : String)
  | noClosing
  /-- A word that another one must not follow, and that other one. -/
  | unexpected (word next : String)
  deriving DecidableEq, Repr

def Fault.message : Fault → String
  | .badNumber text => "Illegal number: " ++ text
  | .noArgument operator => operator ++ ": argument expected"
  | .noClosing => "closing paren expected"
  | .unexpected word _ => word ++ ": unexpected operator"

/-- What kind of word an operator is. -/
inductive Kind where
  | unary
  | binary
  | negation
  | both
  | either
  | opening
  | closing
  deriving DecidableEq, Repr

def unaryOperators : List String :=
  ["-r", "-w", "-x", "-e", "-f", "-d", "-c", "-b", "-p", "-u", "-g", "-k", "-s", "-t", "-z", "-n",
    "-h", "-O", "-G", "-L", "-S"]

def binaryOperators : List String :=
  ["=", "!=", "<", ">", "-eq", "-ne", "-ge", "-gt", "-le", "-lt", "-nt", "-ot", "-ef"]

/-- The kind of an operator. -/
def kind? (word : String) : Option Kind :=
  if word ∈ unaryOperators then some .unary
  else if word ∈ binaryOperators then some .binary
  else
    match word with
    | "!" => some .negation
    | "-a" => some .both
    | "-o" => some .either
    | "(" => some .opening
    | ")" => some .closing
    | _ => none

/-- The kind that a word has in front of others; none if it is an operand. -/
def kindAt (words : List String) : Option Kind :=
  match words with
  | [] => none
  | word :: rest =>
    match kind? word, rest with
    | some .unary, [] => none
    | some .unary, [_] => some .unary
    | some .unary, next :: _ => if kind? next = some .binary then none else some .unary
    | some .opening, [] => none
    | kind, _ => kind

/-- A whole number, with blanks around it. -/
def number (text : String) : Except Fault Int :=
  let isBlank (c : Char) : Bool := c = ' ' || ('\t' ≤ c && c ≤ '\r')
  let cs := text.toList.dropWhile isBlank
  let (negative, rest) := match cs with
    | '-' :: rest => (true, rest)
    | '+' :: rest => (false, rest)
    | rest => (false, rest)
  let digits := rest.takeWhile Char.isDigit
  if digits.isEmpty || !(rest.dropWhile Char.isDigit).all isBlank then .error (.badNumber text)
  else
    let n : Nat := digits.foldl (fun n c => n * 10 + (c.toNat - '0'.toNat)) 0
    let value : Int := if negative then -(n : Int) else n
    if value < -(Nat.pow 2 63) || Nat.pow 2 63 ≤ value then .error (.badNumber text) else .ok value

/-- What a unary operator says of a word. -/
def unary (files : Files) (operator word : String) : Bool :=
  let node := (files.find (Text.Octets.toText word)).toOption.map (·.2)
  match operator with
  | "-z" => word.isEmpty
  | "-n" => !word.isEmpty
  | "-e" | "-r" | "-w" | "-O" | "-G" => node.isSome
  | "-f" => node.any fun n => (n matches .file .. | .program)
  | "-d" => node = some .folder
  | "-s" => node.any fun n => match n with
      | .file content _ => !content.isEmpty
      | .folder | .program => true
      | .null | .zeros => false
  | "-x" => node.any fun n => match n with
      | .folder | .program => true
      | .file _ runs => runs
      | .null | .zeros => false
  | "-c" => node = some .null || node = some .zeros
  | _ => false

/-- What a binary operator says of two words. -/
def binary (files : Files) (left operator right : String) : Except Fault Bool := do
  let place (name : String) : Option Place :=
    (files.find (Text.Octets.toText name)).toOption.map (·.1)
  match operator with
  | "=" => return left = right
  | "!=" => return left ≠ right
  | "<" => return left < right
  | ">" => return right < left
  | "-eq" => return (← number left) = (← number right)
  | "-ne" => return (← number left) ≠ (← number right)
  | "-ge" => return (← number right) ≤ (← number left)
  | "-gt" => return (← number right) < (← number left)
  | "-le" => return (← number left) ≤ (← number right)
  | "-lt" => return (← number left) < (← number right)
  | "-nt" => return (place left).isSome && (place right).isNone
  | "-ot" => return (place left).isNone && (place right).isSome
  | _ => return (place left).isSome && place left = place right

/-- The level of what is read: alternatives, what must hold together, and single conditions. -/
inductive Level where
  | either
  | both
  | single
  deriving DecidableEq, Repr

/-- The answer of the words from the left on, and the words from the last one on that was read.
Every step takes a word or goes down a level, so three times the number of words suffices for
`steps`. -/
def evaluate (files : Files) : Nat → Level → List String → Except Fault (Bool × List String)
  | 0, _, words => .ok (false, words)
  | steps + 1, .either, words => do
    let (answer, rest) ← evaluate files steps .both words
    if kindAt (rest.drop 1) = some .either then
      let (other, rest) ← evaluate files steps .either (rest.drop 2)
      return (answer || other, rest)
    return (answer, rest)
  | steps + 1, .both, words => do
    let (answer, rest) ← evaluate files steps .single words
    if kindAt (rest.drop 1) = some .both then
      let (other, rest) ← evaluate files steps .both (rest.drop 2)
      return (answer && other, rest)
    return (answer, rest)
  | steps + 1, .single, words => do
    match kindAt words, words with
    | some .negation, [_] => return (true, words)
    | some .negation, _ :: rest =>
      let (answer, rest) ← evaluate files steps .single rest
      return (!answer, rest)
    | _, [] => return (false, [])
    | some .opening, _ :: rest =>
      if kindAt rest = some .closing then return (false, rest)
      let (answer, rest) ← evaluate files steps .either rest
      if kindAt (rest.drop 1) = some .closing then return (answer, rest.drop 1)
      throw .noClosing
    | some .unary, operator :: rest =>
      match rest with
      | [] => throw (.noArgument operator)
      | word :: _ => return (unary files operator word, rest)
    | _, word :: rest =>
      if kindAt rest = some .binary then
        match rest with
        | operator :: right :: rest => return (← binary files word operator right, right :: rest)
        | operator :: [] => throw (.noArgument operator)
        | [] => return (!word.isEmpty, words)
      return (!word.isEmpty, words)

/-- Does a condition hold? Three words with an operator in their middle are a comparison, and outer
brackets or a negation of a short condition are taken off first. -/
def holds (files : Files) (words : List String) : Except Fault Bool :=
  go 4 words
where
  go : Nat → List String → Except Fault Bool
    | 0, _ => .ok false
    | n + 1, words =>
      match words with
      | [] => .ok false
      | [left, operator, right] =>
        if kind? operator = some .binary then binary files left operator right
        else short n words
      | [_, _, _, _] => short n words
      | _ => long words
  short (n : Nat) (words : List String) : Except Fault Bool :=
    if words.head? = some "(" && words.getLast? = some ")" then long (words.drop 1).dropLast
    else if words.head? = some "!" then (go n (words.drop 1)).map (!·)
    else long words
  long (words : List String) : Except Fault Bool := do
    let (answer, rest) ← evaluate files (3 * words.length + 3) .either words
    match rest with
    | word :: next :: _ => throw (.unexpected word next)
    | _ => return answer

end PodMesh.Host.Condition
