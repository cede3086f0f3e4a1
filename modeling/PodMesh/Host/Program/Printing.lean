import PodMesh.Host.Condition
import PodMesh.Host.Effect
import PodMesh.Host.Format
import PodMesh.Host.Matching

/-!
# Programs that print their arguments

Programs that make texts and numbers of their arguments, and those that only succeed, fail
or wait.
-/

namespace PodMesh.Host.Program

open Call (has value?)

/-! ## Texts -/

/-- Is an argument made of the letters that change how arguments are echoed? -/
def isEchoOption (arg : String) : Bool :=
  match arg.toList with
  | '-' :: c :: cs => (c :: cs).all (· ∈ ['n', 'e', 'E'])
  | _ => false

/-- What is echoed for some arguments. Options stand first; the last of them that speaks of escapes
decides. -/
def echoed (args : List String) : String :=
  let options := (args.takeWhile isEchoOption).flatMap String.toList
  let text := " ".intercalate (args.dropWhile isEchoOption)
  let newline := if 'n' ∈ options then "" else "\n"
  if (options.filter (· ∈ ['e', 'E'])).getLast? = some 'e' then
    let (out, ends) := Escapes.resolve (Escapes.ofArgument .standalone) text.length text.toList
    String.ofList out ++ if ends then "" else newline
  else text ++ newline

def echo (call : Call) : Effect := .printing (echoed call.arguments)

/-- Prints arguments by a format. -/
def printf (call : Call) : Effect :=
  match call.arguments with
  | [] | ["--"] => call.missing "missing operand" 1
  | first :: rest =>
    let (format, args) := if first = "--" then (rest.headD "", rest.drop 1) else (first, rest)
    let printed := Format.print .standalone format args
    { outputs := printed.map fun p => match p with
        | .text chars => .out (String.ofList chars)
        | .fault fault => .err (call.name ++ ": " ++ fault.message .standalone ++ "\n")
      status := Format.status .standalone printed }

/-- How many bytes are printed by what never stops printing. -/
def endlessOutput : Nat := 65536

/-- Prints its arguments without an end. -/
def yes (call : Call) : Effect :=
  call.withOptions {} 1 fun _ words =>
    let line := (if words.isEmpty then "y" else " ".intercalate words) ++ "\n"
    let lines := List.replicate (endlessOutput / Nat.max 1 line.length + 1) line
    { outputs := [.out (String.join lines)], endless := true }

/-- A name without what stands before its last slash. -/
def lastStep (name : List Char) : List Char :=
  let kept := (name.reverse.dropWhile (· = '/')).reverse
  if kept.isEmpty then name.take 1
  else (kept.reverse.takeWhile (· ≠ '/')).reverse

/-- A text without an ending that is not all of it. -/
def withoutEnding (ending text : List Char) : List Char :=
  if ending.length < text.length && ending.isSuffixOf text then
    text.take (text.length - ending.length)
  else text

/-- Prints the last steps of names, without an ending. -/
def basename (call : Call) : Effect :=
  call.withOptions { plain := ['a', 'z'], valued := ['s'], leading := true } 1 fun given names =>
    let several := has given 'a' || has given 's'
    let shortened (ending name : String) : String :=
      String.ofList (withoutEnding ending.toList (lastStep name.toList))
    match names with
    | [] => call.missing "missing operand" 1
    | name :: rest =>
      if several then
        let ending := (value? given 's').getD ""
        .printing (String.join (names.map fun n => shortened ending n ++ "\n"))
      else
        match rest with
        | [] => .printing (shortened "" name ++ "\n")
        | [ending] => .printing (shortened ending name ++ "\n")
        | _ :: extra :: _ => call.missing ("extra operand '" ++ extra ++ "'") 1

/-- A name without its last step. -/
def folderOf (name : List Char) : List Char :=
  let kept := name.reverse.dropWhile (· = '/')
  let rest := (kept.dropWhile (· ≠ '/')).dropWhile (· = '/')
  if !rest.isEmpty then rest.reverse
  else if name.head? = some '/' then ['/']
  else ['.']

/-- Prints names without their last steps. -/
def dirname (call : Call) : Effect :=
  call.withOptions { plain := ['z'] } 1 fun _ names =>
    if names.isEmpty then call.missing "missing operand" 1
    else .printing (String.join (names.map fun n => String.ofList (folderOf n.toList) ++ "\n"))

/-! ## Numbers -/

/-- A decimal number as a whole number of units of a power of ten. -/
def decimal? (text : String) : Option (Int × Nat) :=
  let (negative, rest) := Binary64.takeSign text.toList
  let whole := rest.takeWhile Char.isDigit
  let places? : Option (List Char) := match rest.drop whole.length with
    | [] => some []
    | '.' :: digits => if digits.all Char.isDigit then some digits else none
    | _ => none
  match places? with
  | some places =>
    if whole.isEmpty && places.isEmpty then none
    else
      let n : Nat := Binary64.ofDigits (whole ++ places)
      some (if negative then -(n : Int) else n, places.length)
  | none => none

/-- The numbers from one to another by a step, in units of a power of ten. -/
def steps (step last : Int) : Nat → Int → List Int
  | 0, _ => []
  | n + 1, value =>
    if (0 ≤ step && last < value) || (step < 0 && value < last) then []
    else value :: steps step last n (value + step)

/-- A number of units of a power of ten in digits. -/
def unitsText (places : Nat) (n : Int) : String :=
  let digits := if places = 0 then Nat.toDigits 10 n.natAbs else Binary64.pointed places n.natAbs
  String.ofList (if n < 0 then '-' :: digits else digits)

/-- Splits the arguments of `seq`: options, then numbers, which may start with a dash. -/
def seqArguments : List String → List String × String × Bool
  | "-w" :: rest =>
    let (numbers, separator, _) := seqArguments rest
    (numbers, separator, true)
  | "-s" :: separator :: rest =>
    let (numbers, _, wide) := seqArguments rest
    (numbers, separator, wide)
  | arg :: rest =>
    if "-s".toList.isPrefixOf arg.toList then
      let (numbers, _, wide) := seqArguments rest
      (numbers, String.ofList (arg.toList.drop 2), wide)
    else (arg :: rest, "\n", false)
  | [] => ([], "\n", false)

/-- Prints numbers one after the other. -/
def seq (call : Call) : Effect :=
  let (words, separator, wide) := seqArguments call.arguments
  match if 3 < words.length then none else words.find? fun w => (decimal? w).isNone with
  | some word =>
    if word.toList.head? = some '-' && 1 < word.length then
      call.missing ("invalid option -- '" ++ String.ofList ((word.toList.drop 1).take 1) ++ "'") 1
    else call.missing ("invalid floating point argument: '" ++ word ++ "'") 1
  | none =>
    let one : Int × Nat := (1, 0)
    let run (first step last : Int × Nat) : Effect :=
      let places := Nat.max first.2 step.2
      let all := Nat.max places last.2
      let units (x : Int × Nat) : Int := x.1 * Nat.pow 10 (all - x.2)
      if units step = 0 then
        call.missing ("invalid Zero increment value: '" ++ words.getD 1 "" ++ "'") 1
      else
        let count := ((units last - units first) / units step).toNat + 1
        let values := steps (units step) (units last) (Nat.min count 200000) (units first)
        let texts := values.map fun v =>
          if places < all then
            unitsText places (v / Nat.pow 10 (all - places))
          else unitsText places v
        let width := texts.foldl (fun n t => Nat.max n t.length) 0
        let padded (t : String) : String :=
          let zeros := String.ofList (List.replicate (width - t.length) '0')
          match t.toList with
          | '-' :: digits => "-" ++ zeros ++ String.ofList digits
          | _ => zeros ++ t
        let texts := if wide then texts.map padded else texts
        if texts.isEmpty then {} else .printing (separator.intercalate texts ++ "\n")
    match if 3 < words.length then words.map fun _ => one else words.filterMap decimal? with
    | [] => call.missing "missing operand" 1
    | [last] => run one one last
    | [first, last] => run first one last
    | [first, step, last] => run first step last
    | _ => call.missing ("extra operand '" ++ words.getD 3 "" ++ "'") 1

/-! ## Expressions -/

/-- Why an expression has no value. -/
inductive ExprFault where
  | missingAfter (word : String)
  | unexpected (word : String)
  | notNumber
  | divisionByZero
  | unclosed (word : String)
  deriving DecidableEq, Repr

def ExprFault.message : ExprFault → String
  | .missingAfter word => "syntax error: missing argument after '" ++ word ++ "'"
  | .unexpected word => "syntax error: unexpected argument '" ++ word ++ "'"
  | .notNumber => "non-integer argument"
  | .divisionByZero => "division by zero"
  | .unclosed word => "syntax error: expecting ')' after '" ++ word ++ "'"

/-- The whole number that a text writes. -/
def integer? (text : String) : Option Int :=
  let (negative, digits) := match text.toList with
    | '-' :: rest => (true, rest)
    | rest => (false, rest)
  if digits.isEmpty || !digits.all Char.isDigit then none
  else
    let n : Nat := Binary64.ofDigits digits
    some (if negative then -(n : Int) else n)

/-- Does a value count as nothing? -/
def isNull (text : String) : Bool :=
  text.isEmpty || match text.toList with
    | '-' :: rest => !rest.isEmpty && rest.all (· = '0')
    | cs => cs.all (· = '0')

/-- What a text matches an expression from its start on: the first group, or else a count. -/
def matchStart (text pattern : String) : String :=
  match Regex.read? false pattern.toList with
  | none => ""
  | some regex =>
    let subject : Regex.Subject := { text := text.toList.toArray }
    let grouped := (pattern.splitOn "\\(").length ≠ 1
    match regex.matchAt? subject 0 with
    | some spot =>
      if grouped then
        match spot.group? 1 with
        | some (start, stop) => String.ofList (subject.slice start stop)
        | none => ""
      else toString spot.place
    | none => if grouped then "" else "0"

/-- The operators of each level, the weakest first. -/
def exprLevels : List (List String) :=
  [["|"], ["&"], ["<", "<=", "=", "==", "!=", ">=", ">"], ["+", "-"], ["*", "/", "%"], [":"]]

/-- The value of an operator between two values. -/
def exprApply (operator a b : String) : Except ExprFault String :=
  let numbers : Option (Int × Int) := do return (← integer? a, ← integer? b)
  let truth (yes : Bool) : String := if yes then "1" else "0"
  let compared : Ordering := match numbers with
    | some (x, y) => compare x y
    | none => if a < b then .lt else if a = b then .eq else .gt
  let computed (f : Int → Int → Int) : Except ExprFault String :=
    match numbers with
    | some (x, y) => .ok (toString (f x y))
    | none => .error .notNumber
  match operator with
  | "|" => .ok (if !isNull a then a else if b.isEmpty then "0" else if isNull b then "0" else b)
  | "&" => .ok (if isNull a || isNull b then "0" else a)
  | "<" => .ok (truth (compared = .lt))
  | "<=" => .ok (truth (compared ≠ .gt))
  | "=" | "==" => .ok (truth (compared = .eq))
  | "!=" => .ok (truth (compared ≠ .eq))
  | ">=" => .ok (truth (compared ≠ .lt))
  | ">" => .ok (truth (compared = .gt))
  | "+" => computed (· + ·)
  | "-" => computed (· - ·)
  | "*" => computed (· * ·)
  | ":" => .ok (matchStart a b)
  | _ =>
    match numbers with
    | some (_, 0) => .error .divisionByZero
    | _ => computed (if operator = "/" then Int.tdiv else Int.tmod)

/-- The value of words at some level, and the words that are left. Every step takes a word or goes
up a level. -/
def exprValue : Nat → Nat → String → List String → Except ExprFault (String × List String)
  | 0, _, previous, _ => .error (.missingAfter previous)
  | n + 1, level, previous, words =>
    match exprLevels[level]? with
    | some operators => do
      let (first, rest) ← exprValue n (level + 1) previous words
      more n level operators first rest
    | none =>
      match words with
      | [] => .error (.missingAfter previous)
      | "(" :: rest => do
        let (value, rest) ← exprValue n 0 "(" rest
        match rest with
        | ")" :: rest => return (value, rest)
        | word :: _ => throw (.unexpected word)
        | [] => throw (.unclosed value)
      | "length" :: word :: rest => .ok (toString word.length, rest)
      | "match" :: text :: pattern :: rest => .ok (matchStart text pattern, rest)
      | "index" :: text :: chars :: rest =>
        let place := text.toList.findIdx (· ∈ chars.toList)
        .ok (if place < text.length then toString (place + 1) else "0", rest)
      | "substr" :: text :: start :: count :: rest =>
        let cut := match integer? start, integer? count with
          | some s, some c =>
            if s < 1 || c < 1 then "" else
              String.ofList ((text.toList.drop (s.toNat - 1)).take c.toNat)
          | _, _ => ""
        .ok (cut, rest)
      | "+" :: word :: rest => .ok (word, rest)
      | ")" :: _ => .error (.unexpected ")")
      | word :: rest => .ok (word, rest)
where
  more : Nat → Nat → List String → String → List String →
      Except ExprFault (String × List String)
    | 0, _, _, value, rest => .ok (value, rest)
    | n + 1, level, operators, value, rest =>
      match rest with
      | operator :: rest' =>
        if operator ∈ operators then do
          let (right, rest) ← exprValue n (level + 1) operator rest'
          more n level operators (← exprApply operator value right) rest
        else .ok (value, rest)
      | [] => .ok (value, [])

/-- Prints the value of an expression. It fails where that is nothing. -/
def expr (call : Call) : Effect :=
  let words := if call.arguments.head? = some "--" then call.arguments.drop 1 else call.arguments
  if words.isEmpty then call.missing "missing operand" 2
  else
    match exprValue (10 * words.length + 20) 0 "" words with
    | .error fault => call.complaint fault.message 2
    | .ok (value, []) =>
      { outputs := [.out (value ++ "\n")], status := if isNull value then 1 else 0 }
    | .ok (_, word :: _) => call.complaint (ExprFault.unexpected word).message 2

/-! ## Conditions -/

/-- Tells whether a condition holds by how it ends. -/
def test (call : Call) : Effect :=
  let bracket := call.name.toList.getLast? = some '['
  if bracket && call.arguments.getLast? ≠ some "]" then call.complaint "missing ']'" 2
  else
    match Condition.holds call.files
        (if bracket then call.arguments.dropLast else call.arguments) with
    | .ok answer => { status := if answer then 0 else 1 }
    | .error (.badNumber text) => call.complaint ("invalid integer '" ++ text ++ "'") 2
    | .error (.unexpected _ next) => call.complaint ("extra argument '" ++ next ++ "'") 2
    | .error (.noArgument operator) =>
      call.complaint ("missing argument after '" ++ operator ++ "'") 2
    | .error .noClosing => call.complaint "')' expected" 2

/-! ## Waiting -/

/-- The milliseconds that a number of seconds writes, or of minutes, hours or days. -/
def millis? (text : String) : Option Nat :=
  let cs := text.toList
  let (unit, cs) : Nat × List Char := match cs.getLast? with
    | some 's' => (1, cs.dropLast)
    | some 'm' => (60, cs.dropLast)
    | some 'h' => (3600, cs.dropLast)
    | some 'd' => (86400, cs.dropLast)
    | _ => (1, cs)
  match decimal? (String.ofList cs) with
  | some (n, places) => if n < 0 then none else some (n.toNat * unit * 1000 / Nat.pow 10 places)
  | none => none

/-- Waits. -/
def sleep (call : Call) : Effect :=
  call.withOptions {} 1 fun _ words =>
    match words.find? fun w => (millis? w).isNone && w ∉ ["infinity", "inf"] with
    | some word => call.missing ("invalid time interval '" ++ word ++ "'") 1
    | none =>
      if words.isEmpty then call.missing "missing operand" 1
      else if words.any fun w => (millis? w).isNone then { endless := true }
      else { millis := (words.filterMap millis?).foldl (· + ·) 0 }

/-! ## The host -/

/-- Prints the variables of the environment, or the values of some. -/
def printenv (call : Call) : Effect :=
  match call.arguments with
  | [] => .printing (String.join (call.environment.map fun (n, v) => n ++ "=" ++ v ++ "\n"))
  | names =>
    let values := names.filterMap fun name => call.environment.lookup name
    { outputs := [.out (String.join (values.map (· ++ "\n")))]
      status := if values.length = names.length then 0 else 1 }

/-- The current folder by its full name. -/
def folderName (files : Files) : String :=
  "/" ++ "/".intercalate files.current.reverse

def pwd (call : Call) : Effect :=
  call.withOptions { plain := ['L', 'P'] } 1 fun _ _ =>
    .printing (folderName call.files ++ "\n")

/-- Prints the name of who runs the program. -/
def whoami (call : Call) : Effect :=
  call.withOptions {} 1 fun _ words =>
    match words with
    | [] => .printing "root\n"
    | word :: _ => call.missing ("extra operand '" ++ word ++ "'") 1

/-- Prints who runs the program: the numbers and names of a user and of groups. -/
def id (call : Call) : Effect :=
  call.withOptions { plain := ['a', 'u', 'g', 'G', 'n', 'r', 'z', 'Z'],
                     long := [("user", 'u'), ("group", 'g'), ("groups", 'G'), ("name", 'n')] } 1
    fun given _ =>
      if !given.any (·.letter ∈ ['u', 'g', 'G']) then
        .printing "uid=0(root) gid=0(root) groups=0(root)\n"
      else .printing (if has given 'n' then "root\n" else "0\n")

/-- Prints the name of the system. Nothing else is known of it. -/
def uname (call : Call) : Effect :=
  call.withOptions { plain := ['a', 's', 'n', 'r', 'v', 'm', 'o', 'p', 'i'],
                     long := [("kernel-name", 's'), ("machine", 'm')] } 1
    fun given _ => .printing (if has given 'm' then "x86_64\n" else "Linux\n")

/-- Prints where programs are found. -/
def which (call : Call) : Effect :=
  call.withOptions { plain := ['a', 's'], leading := true } 2 fun _ names =>
    let folders := Text.splitOn ':' ((call.environment.lookup "PATH").getD "").toList
    let found (name : String) : Option String :=
      if '/' ∈ name.toList then
        if (call.files.runnable (Call.fileName name)).isOk then some name else none
      else
        (folders.map fun folder => String.ofList folder ++ "/" ++ name).find? fun path =>
          (call.files.runnable (Call.fileName path)).isOk
    { outputs := [.out (String.join ((names.filterMap found).map (· ++ "\n")))]
      status := if names.isEmpty || names.any fun n => (found n).isNone then 1 else 0 }

end PodMesh.Host.Program
