import PodMesh.Host.Shell.Reader

/-!
# Arithmetic

The value of an arithmetic expression: whole numbers of 64 bits, variables by their names,
and the usual operators. An assignment changes a variable, unless it stands where nothing
is computed: behind an operator that is settled already.
-/

namespace PodMesh.Host.Shell.Arithmetic

/-- Why an expression has no value. -/
inductive Fault where
  | expected (what : String)
  | divisionByZero
  /-- The value of a variable is no number. -/
  | illegalNumber (text : String)
  | notSet (name : String)
  deriving DecidableEq, Repr

/-- The words of a fault of an expression. -/
def Fault.message (expression : String) : Fault → String
  | .expected what => "arithmetic expression: expecting " ++ what ++ ": \"" ++ expression ++ "\""
  | .divisionByZero => "arithmetic expression: division by zero: \"" ++ expression ++ "\""
  | .illegalNumber text => "Illegal number: " ++ text
  | .notSet name => name ++ ": parameter not set"

inductive Token where
  | number (n : Int)
  | name (s : String)
  | sign (s : String)
  | strange
  deriving DecidableEq, Repr

/-- A number of 64 bits with a sign. -/
def wrap (n : Int) : Int := n.bmod (Nat.pow 2 64)

/-- The signs, longer ones first. -/
def signs : List String :=
  ["<<=", ">>=", "<<", ">>", "<=", ">=", "==", "!=", "&&", "||", "*=", "/=", "%=", "+=", "-=", "&=",
    "^=", "|=", "=", "*", "/", "%", "+", "-", "&", "^", "|", "<", ">", "!", "~", "?", ":", "(", ")"]

/-- The number at the front of a text, and what follows it. -/
def numberOf (cs : List Char) : Int × List Char :=
  let read (base : Nat) (isDigit : Char → Bool) (cs : List Char) : Int × List Char :=
    let digits := cs.takeWhile isDigit
    let value (c : Char) : Nat :=
      if c.isDigit then c.toNat - '0'.toNat else c.toLower.toNat - 'a'.toNat + 10
    let n : Nat := digits.foldl (fun n c => n * base + value c) 0
    (if Nat.pow 2 63 ≤ n then Nat.pow 2 63 - 1 else n, cs.drop digits.length)
  let isHex (c : Char) : Bool :=
    c.isDigit || ('a' ≤ c.toLower && c.toLower ≤ 'f')
  match cs with
  | '0' :: x :: d :: rest =>
    if (x = 'x' || x = 'X') && isHex d then read 16 isHex (d :: rest)
    else read 8 (fun c => '0' ≤ c && c ≤ '7') cs
  | '0' :: _ => read 8 (fun c => '0' ≤ c && c ≤ '7') cs
  | _ => read 10 Char.isDigit cs

/-- The tokens of an expression. Every step takes a character. -/
def tokens : Nat → List Char → List Token
  | 0, _ | _, [] => []
  | steps + 1, c :: rest =>
    if c = ' ' || c = '\t' || c = '\n' then tokens steps rest
    else if c.isDigit then
      let (n, rest) := numberOf (c :: rest)
      .number n :: tokens steps rest
    else if isNameStart c then
      let name := (c :: rest).takeWhile isNamePart
      .name (String.ofList name) :: tokens steps ((c :: rest).drop name.length)
    else
      match signNext? signs (c :: rest) with
      | some sign => .sign sign :: tokens steps ((c :: rest).drop sign.length)
      | none => [.strange]

/-- An expression under way: the tokens that are left, and what was assigned, the last first. -/
structure Progress where
  rest : List Token
  assigned : List (String × Int) := []

abbrev Eval := StateT Progress (Except Fault)

/-- The operators with two operands of each level, the weakest first. -/
def levels : List (List String) :=
  [["||"], ["&&"], ["|"], ["^"], ["&"], ["==", "!="], ["<", ">", "<=", ">="], ["<<", ">>"],
    ["+", "-"], ["*", "/", "%"]]

/-- The value of an operator for two numbers. -/
def apply (operator : String) (a b : Int) : Except Fault Int :=
  let truth (yes : Bool) : Int := if yes then 1 else 0
  let bits (f : Nat → Nat → Nat) : Int :=
    wrap (f (a % Nat.pow 2 64).toNat (b % Nat.pow 2 64).toNat : Nat)
  match operator with
  | "||" => .ok (truth (a ≠ 0 || b ≠ 0))
  | "&&" => .ok (truth (a ≠ 0 && b ≠ 0))
  | "|" => .ok (bits (· ||| ·))
  | "^" => .ok (bits (· ^^^ ·))
  | "&" => .ok (bits (· &&& ·))
  | "==" => .ok (truth (a = b))
  | "!=" => .ok (truth (a ≠ b))
  | "<" => .ok (truth (a < b))
  | ">" => .ok (truth (b < a))
  | "<=" => .ok (truth (a ≤ b))
  | ">=" => .ok (truth (b ≤ a))
  | "<<" => .ok (wrap (a * Nat.pow 2 (b % 64).toNat))
  | ">>" => .ok (a / Nat.pow 2 (b % 64).toNat)
  | "+" => .ok (wrap (a + b))
  | "-" => .ok (wrap (a - b))
  | "*" => .ok (wrap (a * b))
  | "/" => if b = 0 then .error .divisionByZero else .ok (wrap (Int.tdiv a b))
  | _ => if b = 0 then .error .divisionByZero else .ok (Int.tmod a b)

def fail {α : Type} (fault : Fault) : Eval α := fun _ => .error fault

def peek : Eval (Option Token) := do return (← get).rest.head?

def skip : Eval Unit := modify fun p => { p with rest := p.rest.drop 1 }

/-- The value of a variable, as it was assigned last. -/
def lookup (value : String → Except Fault Int) (name : String) : Eval Int := do
  match (← get).assigned.lookup name with
  | some n => return n
  | none =>
    match value name with
    | .ok n => return n
    | .error fault => fail fault

mutual

/-- An assignment, or a choice. Nothing is computed where it is not live. -/
def assignment (value : String → Except Fault Int) : Nat → Bool → Eval Int
  | 0, _ => return 0
  | n + 1, live => do
    match (← get).rest with
    | .name name :: .sign sign :: _ =>
      if sign = "=" then
        skip; skip
        let result ← assignment value n live
        if live then modify fun p => { p with assigned := (name, result) :: p.assigned }
        return result
      if sign.length = 2 && sign ∉ ["<=", ">=", "==", "!="] && sign.toList.getLast? = some '=' ||
          sign.length = 3 then
        skip; skip
        let right ← assignment value n live
        if !live then return right
        let operator := String.ofList sign.toList.dropLast
        match apply operator (← lookup value name) right with
        | .ok result =>
          modify fun p => { p with assigned := (name, result) :: p.assigned }
          return result
        | .error fault => fail fault
      choice value n live
    | _ => choice value n live

/-- A choice between two values, or the weakest operator. -/
def choice (value : String → Except Fault Int) : Nat → Bool → Eval Int
  | 0, _ => return 0
  | n + 1, live => do
    let condition ← binary value n live 0
    if (← peek) ≠ some (.sign "?") then return condition
    skip
    let yes ← assignment value n (live && condition ≠ 0)
    if (← peek) ≠ some (.sign ":") then fail (.expected "':'")
    skip
    let no ← choice value n (live && condition = 0)
    return if condition ≠ 0 then yes else no

/-- The operators of one level. -/
def binary (value : String → Except Fault Int) : Nat → Bool → Nat → Eval Int
  | 0, _, _ => return 0
  | n + 1, live, level => do
    if levels.length ≤ level then primary value n live
    else
      let first ← binary value n live (level + 1)
      binaryAfter value n live level first

def binaryAfter (value : String → Except Fault Int) : Nat → Bool → Nat → Int → Eval Int
  | 0, _, _, first => return first
  | n + 1, live, level, first => do
    match ← peek with
    | some (.sign sign) =>
      if sign ∈ levels.getD level [] then
        skip
        let settled := (sign = "||" && first ≠ 0) || (sign = "&&" && first = 0)
        let second ← binary value n (live && !settled) (level + 1)
        if !live then binaryAfter value n live level 0
        else if settled then binaryAfter value n live level (if sign = "||" then 1 else 0)
        else
          match apply sign first second with
          | .ok result => binaryAfter value n live level result
          | .error fault => fail fault
      else return first
    | _ => return first

/-- A number, a variable, a part in parentheses, or a sign in front of one. -/
def primary (value : String → Except Fault Int) : Nat → Bool → Eval Int
  | 0, _ => return 0
  | n + 1, live => do
    match ← peek with
    | some (.number x) =>
      skip
      return x
    | some (.name name) =>
      skip
      if live then lookup value name else return 0
    | some (.sign "(") =>
      skip
      let result ← assignment value n live
      if (← peek) ≠ some (.sign ")") then fail (.expected "')'")
      skip
      return result
    | some (.sign "+") =>
      skip
      primary value n live
    | some (.sign "-") =>
      skip
      return wrap (-(← primary value n live))
    | some (.sign "!") =>
      skip
      return if (← primary value n live) = 0 then 1 else 0
    | some (.sign "~") =>
      skip
      return -(← primary value n live) - 1
    | _ => fail (.expected "primary")

end

/-- The value of an expression, and what it assigns, in order. -/
def evaluate (value : String → Except Fault Int) (expression : String) :
    Except Fault (Int × List (String × Int)) := do
  let chars := expression.toList
  let all := tokens chars.length chars
  let (result, after) ← (assignment value (20 * all.length + 20) true).run { rest := all }
  if !after.rest.isEmpty then throw (.expected "EOF")
  return (result, after.assigned.reverse)

end PodMesh.Host.Shell.Arithmetic
