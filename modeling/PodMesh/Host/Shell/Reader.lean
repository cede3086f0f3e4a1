import PodMesh.Host.Shell.Syntax
import PodMesh.Text.Line

/-!
# Reading scripts

A script is read one complete command at a time: a command ends with its line, unless
something in it is still open. A word of the language is one only where a command may
begin, and only if none of it is quoted.

The text that a redirection takes from the script stands behind the line of the
redirection; it is taken out of the script when the redirection is read.
-/

namespace PodMesh.Host.Shell

/-- Why a script is refused, and on which line. -/
structure SyntaxFault where
  line : Nat
  words : String
  deriving DecidableEq, Repr

def SyntaxFault.message (fault : SyntaxFault) : String := "Syntax error: " ++ fault.words

/-- A token. -/
inductive Token where
  | word (pieces : List Piece)
  | operator (sign : String)
  /-- A sign of redirection, with the number right before it. -/
  | redirection (number : Option Nat) (sign : String)
  | newline
  | finish

/-- The words of the language. -/
def reserved : List String :=
  ["!", "case", "do", "done", "elif", "else", "esac", "fi", "for", "if", "in", "then", "until",
    "while", "\x7b", "\x7d"]

/-- The text of a word that is nothing but unquoted text. -/
def plainText? : List Piece → Option String
  | [.text chars false] => some (String.ofList chars)
  | _ => none

namespace Token

/-- The word of the language that a token is. -/
def reserved? : Token → Option String
  | .word pieces => (plainText? pieces).filter (· ∈ reserved)
  | _ => none

/-- Is a token a sign, or a word of the language? -/
def isSign (t : Token) (s : String) : Bool :=
  match t with
  | .operator sign => sign = s
  | t => t.reserved? = some s

/-- A token as complaints name it. -/
def name : Token → String
  | .finish => "end of file"
  | .newline => "newline"
  | .redirection .. => "redirection"
  | .operator sign => "\"" ++ sign ++ "\""
  | t => match t.reserved? with
    | some w => "\"" ++ w ++ "\""
    | none => "word"

/-- A token where no word of the language is looked for. -/
def asWord : Token → Token
  | .word _ => .word []
  | t => t

/-- Does a list of commands end in front of a token? -/
def endsList (t : Token) : Bool :=
  (t matches .finish) ||
    [")", ";;", "do", "done", "elif", "else", "esac", "fi", "then", "\x7d"].any t.isSign

end Token

/-- A script that is being read. -/
structure Source where
  rest : List Char
  line : Nat := 1
  /-- How many lines were taken out behind the current one. -/
  skipped : Nat := 0
  /-- A token that was read and not yet used. -/
  held : Option Token := none
  /-- Texts that stand for commands, by name. -/
  aliases : List (String × String) := []
  /-- The names whose texts are being read, with how much of the script follows them. -/
  inUse : List (String × Nat) := []

/-- A part of reading. -/
abbrev Read := StateT Source (Except SyntaxFault)

/-- The text that a name of a command stands for, unless it is being read. -/
def Source.alias? (s : Source) (name : String) : Option String :=
  if s.inUse.any fun (used, left) => used = name && left < s.rest.length then none
  else s.aliases.lookup name

namespace Read

def fail {α : Type} (words : String) : Read α := fun s => .error ⟨s.line, words⟩

/-- Complains about a token where another one had to come. -/
def unexpected {α : Type} (t : Token) (wanted : Option String) : Read α :=
  fail (t.name ++ " unexpected" ++
    match wanted with
    | some sign => " (expecting \"" ++ sign ++ "\")"
    | none => "")

def peek : Read (Option Char) := do return (← get).rest.head?

def upcoming : Read (List Char) := do return (← get).rest

/-- Goes past some characters. -/
def advance (n : Nat) : Read Unit :=
  modify fun s =>
    let newlines := ((s.rest.take n).filter (· = '\n')).length
    if newlines = 0 then { s with rest := s.rest.drop n }
    else { s with rest := s.rest.drop n, line := s.line + newlines + s.skipped, skipped := 0 }

/-- Takes characters as long as they pass a test. -/
def takeWhile (test : Char → Bool) : Read (List Char) := do
  let taken := (← get).rest.takeWhile test
  advance taken.length
  return taken

end Read

open Read

def isNameStart (c : Char) : Bool := c.isAlpha || c = '_'

def isNamePart (c : Char) : Bool := c.isAlphanum || c = '_'

/-- Is a text the name of a find? -/
def isName (s : String) : Bool :=
  match s.toList with
  | c :: cs => isNameStart c && cs.all isNamePart
  | [] => false

/-- The parameters whose names are single signs. -/
def isSpecial (c : Char) : Bool := c ∈ ['@', '*', '#', '$', '?', '!', '-']

/-- Where pieces stand, which decides what ends them and what is a sign in them. -/
inductive Context where
  | bare
  | double
  /-- In the braces of a parameter, between double quotes or not. -/
  | braces (double : Bool)
  | document
  | arithmetic
  deriving DecidableEq, Repr

namespace Context

/-- Are pieces quoted there? -/
def isQuoted : Context → Bool
  | .bare | .braces false => false
  | _ => true

/-- The characters that are not just text there. -/
def signs : Context → List Char
  | .bare => [' ', '\t', '\n', ';', '&', '|', '(', ')', '<', '>', '\'', '"', '\\', '$', '\x60']
  | .double => ['"', '\\', '$', '\x60']
  | .braces false => ['\x7d', '\'', '"', '\\', '$', '\x60']
  | .braces true => ['\x7d', '"', '\\', '$', '\x60']
  | .document => ['\\', '$', '\x60']
  | .arithmetic => ['(', ')', '"', '\\', '$', '\x60']

/-- The characters that a backslash takes the meaning from there. -/
def escapable : Context → List Char
  | .bare | .braces false => []
  | .document => ['$', '\x60', '\\']
  | _ => ['$', '\x60', '"', '\\', '\x7d']

end Context

/-- Adds text to pieces, the last of which comes first. -/
def addText (chars : List Char) (quoted : Bool) : List Piece → List Piece
  | .text before q :: rest =>
    if q = quoted then .text (before ++ chars) q :: rest
    else .text chars quoted :: .text before q :: rest
  | pieces => .text chars quoted :: pieces

/-- The word after a sign that takes text from the script, without its quotes, and whether there
were any. -/
def delimiter : Nat → Read (List Char × Bool)
  | 0 => return ([], false)
  | n + 1 => do
    let plain ← takeWhile fun c => c ∉ Context.bare.signs || c = '$' || c = '\x60'
    let more (quote : List Char) : Read (List Char × Bool) := do
      let (rest, _) ← delimiter n
      return (plain ++ quote ++ rest, true)
    match ← upcoming with
    | '\'' :: _ =>
      advance 1
      let inside ← takeWhile (· ≠ '\'')
      advance 1
      more inside
    | '"' :: _ =>
      advance 1
      let inside ← takeWhile (· ≠ '"')
      advance 1
      more inside
    | '\\' :: c :: _ =>
      advance 2
      more [c]
    | _ => return (plain, false)

/-- Takes the lines behind the current one out of the script, up to one that is the delimiter. -/
def takeDocument (stripped : Bool) (delimiter : List Char) : Read (List Char) := do
  let s ← get
  let before := s.rest.takeWhile (· ≠ '\n')
  match s.rest.drop before.length with
  | [] => return []
  | _ :: after =>
    let lines := Text.splitOn '\n' after
    let strip (line : List Char) : List Char :=
      if stripped then line.dropWhile (· = '\t') else line
    let body := (lines.map strip).takeWhile (· ≠ delimiter)
    let rest := ['\n'].intercalate (lines.drop (body.length + 1))
    let ended := body.length < lines.length
    let body := if ended then body else if body.getLast? = some [] then body.dropLast else body
    set { s with
      rest := before ++ '\n' :: rest
      skipped := s.skipped + body.length + if ended then 1 else 0 }
    let text := body.flatMap (· ++ ['\n'])
    return if ended || lines.getLast? = some [] then text else text.dropLast

/-- The operators, those of two signs first. -/
def operators : List String := ["&&", "||", ";;", "&", "|", ";", "(", ")"]

def redirectionSigns : List String := ["<<-", "<<", "<&", "<>", ">>", ">&", ">|", "<", ">"]

/-- The first of some texts that comes next. -/
def signNext? (signs : List String) (src : List Char) : Option String :=
  signs.find? fun s => s.toList.isPrefixOf src

/-- The assignment that a word is. -/
def assignment? : List Piece → Option Assignment
  | .text chars false :: rest =>
    match Text.splitOnce '=' chars with
    | some (name, value) =>
      if isName (String.ofList name) then
        some (.mk (String.ofList name)
          (if value.isEmpty then rest else .text value false :: rest))
      else none
    | none => none
  | _ => none

/-- The names that no function can have. -/
def specialNames : List String :=
  [".", ":", "break", "continue", "eval", "exec", "exit", "export", "readonly", "return", "set",
    "shift", "times", "trap", "unset"]

mutual

/-- Pieces up to the end of where they stand, after some pieces, the last of which comes first. -/
def readPieces : Nat → Context → List Piece → Read (List Piece)
  | 0, _, done => return done.reverse
  | n + 1, place, done => do
    let plain ← takeWhile (· ∉ place.signs)
    let done := if plain.isEmpty then done else addText plain place.isQuoted done
    match ← upcoming with
    | [] =>
      match place with
      | .bare | .document => return done.reverse
      | .double => fail "Unterminated quoted string"
      | .braces _ => fail "Missing '\x7d'"
      | .arithmetic => fail "Missing '))'"
    | '\\' :: '\n' :: _ =>
      advance 2
      readPieces n place done
    | '\\' :: c :: _ =>
      advance 2
      if place.escapable.isEmpty || c ∈ place.escapable then
        readPieces n place (addText [c] true done)
      else readPieces n place (addText ['\\', c] true done)
    | '\\' :: [] =>
      advance 1
      readPieces n place (addText ['\\'] true done)
    | '\'' :: _ =>
      advance 1
      let inside ← takeWhile (· ≠ '\'')
      if (← peek).isNone then fail "Unterminated quoted string"
      advance 1
      readPieces n place (addText inside true done)
    | '"' :: _ =>
      advance 1
      match place with
      | .double => return done.reverse
      | .arithmetic => readPieces n place done
      | _ =>
        let inside ← readPieces n .double []
        readPieces n place (if inside.isEmpty then addText [] true done
          else inside.reverse ++ done)
    | '\x7d' :: _ =>
      advance 1
      return done.reverse
    | '$' :: _ =>
      advance 1
      let piece ← readDollar n place
      match piece with
      | .text chars quoted => readPieces n place (addText chars quoted done)
      | piece => readPieces n place (piece :: done)
    | '\x60' :: _ =>
      advance 1
      let text ← readBackquoted n place.isQuoted
      let s ← get
      set { s with rest := text, held := none }
      let body ← readList n true false
      modify fun inner => { s with line := Nat.max s.line inner.line }
      readPieces n place (.substitution body place.isQuoted :: done)
    | c :: _ =>
      match place, c with
      | .arithmetic, '(' =>
        advance 1
        let inside ← readPieces n .arithmetic []
        readPieces n place (addText [')'] true (inside.reverse ++ addText ['('] true done))
      | .arithmetic, _ =>
        advance 1
        return done.reverse
      | _, _ => return done.reverse

/-- The text up to a closing backquote, without the backslashes that take the meaning from a
sign. -/
def readBackquoted : Nat → Bool → Read (List Char)
  | 0, _ => return []
  | n + 1, quoted => do
    let plain ← takeWhile fun c => c ≠ '\x60' && c ≠ '\\'
    match ← upcoming with
    | '\x60' :: _ =>
      advance 1
      return plain
    | '\\' :: c :: _ =>
      advance 2
      let rest ← readBackquoted n quoted
      if c ∈ ['\x60', '\\', '$'] || (quoted && c = '"') then return plain ++ c :: rest
      return plain ++ '\\' :: c :: rest
    | _ => fail "EOF in backquote substitution"

/-- What follows a dollar sign. -/
def readDollar : Nat → Context → Read Piece
  | 0, place => return .text ['$'] place.isQuoted
  | n + 1, place => do
    let quoted := place.isQuoted
    match ← upcoming with
    | '(' :: '(' :: _ =>
      advance 2
      let expression ← readPieces n .arithmetic []
      match ← upcoming with
      | ')' :: _ =>
        advance 1
        return .arithmetic expression quoted
      | _ => fail "Missing '))'"
    | '(' :: _ =>
      advance 1
      let body ← readList n true false
      let t ← nextToken n
      if !t.isSign ")" then unexpected t (some ")")
      return .substitution body quoted
    | '\x7b' :: _ =>
      advance 1
      readBraces n (match place with
        | .braces double => double
        | _ => quoted)
    | c :: _ =>
      if isNameStart c then
        let name ← takeWhile isNamePart
        return .parameter (String.ofList name) .plain [] quoted
      if c.isDigit || isSpecial c then
        advance 1
        return .parameter (String.ofList [c]) .plain [] quoted
      return .text ['$'] quoted
    | [] => return .text ['$'] quoted

/-- What follows a dollar sign and an opening brace. -/
def readBraces : Nat → Bool → Read Piece
  | 0, quoted => return .text [] quoted
  | n + 1, quoted => do
    let (name, length) : List Char × Bool ← match ← upcoming with
      | '#' :: c :: d :: _ =>
        if isNamePart c then do
          advance 1
          pure ((← takeWhile isNamePart), true)
        else if c ≠ '\x7d' && d = '\x7d' && isSpecial c then do
          advance 2
          pure ([c], true)
        else do
          advance 1
          pure (['#'], false)
      | c :: _ =>
        if isNameStart c then do pure ((← takeWhile isNamePart), false)
        else if c.isDigit then do pure ((← takeWhile Char.isDigit), false)
        else if isSpecial c then do
          advance 1
          pure ([c], false)
        else pure ([], false)
      | [] => pure ([], false)
    let name := String.ofList name
    let made (change : Change) (signs : Nat) (inner : Context) : Read Piece := do
      advance signs
      let word ← readPieces n inner []
      return .parameter name change word quoted
    let inner : Context := .braces quoted
    if name.isEmpty then made .bad 0 inner
    else if length then
      match ← upcoming with
      | '\x7d' :: _ => made .length 0 inner
      | _ => made .bad 0 inner
    else
      match ← upcoming with
      | '\x7d' :: _ => made .plain 0 inner
      | ':' :: '-' :: _ => made (.default true) 2 inner
      | ':' :: '=' :: _ => made (.assign true) 2 inner
      | ':' :: '?' :: _ => made (.complain true) 2 inner
      | ':' :: '+' :: _ => made (.replace true) 2 inner
      | '-' :: _ => made (.default false) 1 inner
      | '=' :: _ => made (.assign false) 1 inner
      | '?' :: _ => made (.complain false) 1 inner
      | '+' :: _ => made (.replace false) 1 inner
      | '#' :: '#' :: _ => made (.cutStart true) 2 (.braces false)
      | '#' :: _ => made (.cutStart false) 1 (.braces false)
      | '%' :: '%' :: _ => made (.cutEnd true) 2 (.braces false)
      | '%' :: _ => made (.cutEnd false) 1 (.braces false)
      | _ => made .bad 0 inner

/-- The next token, which is the one held if there is one. -/
def nextToken : Nat → Read Token
  | 0 => return .finish
  | n + 1 => do
    if let some t := (← get).held then
      modify fun s => { s with held := none }
      return t
    let _ ← takeWhile fun c => c = ' ' || c = '\t'
    match ← upcoming with
    | [] => return .finish
    | '\n' :: _ =>
      advance 1
      return .newline
    | '\\' :: '\n' :: _ =>
      advance 2
      nextToken n
    | '#' :: _ =>
      let _ ← takeWhile (· ≠ '\n')
      nextToken n
    | c :: rest =>
      match signNext? operators (c :: rest) with
      | some sign =>
        advance sign.length
        return .operator sign
      | none =>
        let number := if c.isDigit && (signNext? redirectionSigns rest).isSome then
            some (c.toNat - '0'.toNat)
          else none
        let skip := if number.isSome then 1 else 0
        match signNext? redirectionSigns ((c :: rest).drop skip) with
        | some sign =>
          advance (skip + sign.length)
          return .redirection number sign
        | none => return .word (← readPieces n .bare [])

/-- The next token that is no newline. -/
def nextBeyondLines : Nat → Read Token
  | 0 => return .finish
  | n + 1 => do
    match ← nextToken n with
    | .newline => nextBeyondLines n
    | t => return t

/-- Commands one after the other. In a complete command they end with the line, elsewhere in front
of a token that ends them. There must be one, unless none is allowed. -/
def readList : Nat → Bool → Bool → Read Command
  | 0, _, _ => return .skip
  | n + 1, mayBeEmpty, isComplete => do
    let t ← if isComplete then nextToken n else nextBeyondLines n
    if isComplete then
      if t matches .newline then return .skip
    if t matches .finish then
      modify fun s => { s with held := some t }
      return .skip
    modify fun s => { s with held := some t }
    if mayBeEmpty && t.endsList then return .skip
    let first ← readAndOr n
    let t ← nextToken n
    let first := if t.isSign "&" then .background first else first
    let more : Read Command := do
      match ← readList n true isComplete with
      | .skip => return first
      | rest => return .seq first rest
    match t with
    | .newline =>
      if isComplete then return first
      more
    | .finish =>
      modify fun s => { s with held := some t }
      return first
    | t =>
      if t.isSign "&" || t.isSign ";" then
        if isComplete then readRest n first
        else more
      else if isComplete then unexpected t none
      else
        modify fun s => { s with held := some t }
        return first

/-- What follows a separator in a complete command. -/
def readRest : Nat → Command → Read Command
  | 0, first => return first
  | n + 1, first => do
    match ← readList n false true with
    | .skip => return first
    | rest => return .seq first rest

/-- Commands that depend on each other. -/
def readAndOr : Nat → Read Command
  | 0 => return .skip
  | n + 1 => do
    let first ← readPipeline n
    readAndOrAfter n first

def readAndOrAfter : Nat → Command → Read Command
  | 0, first => return first
  | n + 1, first => do
    let t ← nextToken n
    if t.isSign "&&" || t.isSign "||" then
      let next ← nextBeyondLines n
      modify fun s => { s with held := some next }
      let second ← readPipeline n
      readAndOrAfter n (if t.isSign "&&" then .and first second else .or first second)
    else
      modify fun s => { s with held := some t }
      return first

/-- Commands of which each reads what the one before prints. -/
def readPipeline : Nat → Read Command
  | 0 => return .skip
  | n + 1 => do
    let t ← nextToken n
    let negated := t.reserved? = some "!"
    if !negated then modify fun s => { s with held := some t }
    let first ← readCommand n
    let whole ← readPipelineAfter n first
    return if negated then .not whole else whole

def readPipelineAfter : Nat → Command → Read Command
  | 0, first => return first
  | n + 1, first => do
    let t ← nextToken n
    if t.isSign "|" then
      let next ← nextBeyondLines n
      modify fun s => { s with held := some next }
      let second ← readCommand n
      return .pipe first (← readPipelineAfter n second)
    modify fun s => { s with held := some t }
    return first

/-- Goes past a token that must come next. -/
def expectSign : Nat → String → Read Unit
  | 0, _ => return
  | n + 1, sign => do
    let t ← nextToken n
    if !t.isSign sign then unexpected t (some sign)

/-- A command. -/
def readCommand : Nat → Read Command
  | 0 => return .skip
  | n + 1 => do
    let t ← nextToken n
    let line := (← get).line
    let compound (c : Command) : Read Command := do
      let redirections ← readRedirections n
      if redirections.isEmpty then return c
      return .redirected line c redirections
    match t with
    | .operator "(" =>
      let body ← readList n false false
      expectSign n ")"
      compound (.subshell line body)
    | .operator _ | .newline | .finish => unexpected t none
    | .redirection .. =>
      modify fun s => { s with held := some t }
      readSimple n line [] [] []
    | .word pieces =>
      match t.reserved? with
      | some "if" =>
        let c ← readIf n
        compound c
      | some "while" | some "until" =>
        let condition ← readList n false false
        expectSign n "do"
        let body ← readList n false false
        expectSign n "done"
        compound (.loop condition (t.isSign "while") body)
      | some "for" =>
        let c ← readFor n line
        compound c
      | some "case" =>
        let c ← readCase n line
        compound c
      | some "\x7b" =>
        let body ← readList n false false
        expectSign n "\x7d"
        compound body
      | some _ => unexpected t none
      | none =>
        let s ← get
        let name := (plainText? pieces).getD ""
        match s.alias? name with
        | some text =>
          set { s with rest := text.toList ++ s.rest, inUse := (name, s.rest.length) :: s.inUse }
          readCommand n
        | none =>
          set { s with held := some t }
          readSimple n line [] [] []

/-- What follows `if` or `elif`. -/
def readIf : Nat → Read Command
  | 0 => return .skip
  | n + 1 => do
    let condition ← readList n false false
    expectSign n "then"
    let yes ← readList n false false
    let t ← nextToken n
    if t.isSign "elif" then return .choose condition yes (← readIf n)
    if t.isSign "else" then
      let no ← readList n false false
      expectSign n "fi"
      return .choose condition yes no
    if t.isSign "fi" then return .choose condition yes .skip
    unexpected t (some "fi")

/-- What follows `for`. -/
def readFor : Nat → Nat → Read Command
  | 0, _ => return .skip
  | n + 1, line => do
    let name ← match ← nextToken n with
      | .word pieces =>
        match (plainText? pieces).filter isName with
        | some name => pure name
        | none => fail "Bad for loop variable"
      | _ => fail "Bad for loop variable"
    let t ← nextBeyondLines n
    let words : Option (List (List Piece)) ←
      if t.reserved? = some "in" then
        let (words, next) ← readWords n []
        if !(next matches .newline) && !next.isSign ";" then unexpected next none
        pure (some words)
      else
        if !t.isSign ";" then modify fun s => { s with held := some t }
        pure none
    let t ← nextBeyondLines n
    if !t.isSign "do" then unexpected t (some "do")
    let body ← readList n false false
    expectSign n "done"
    return .forEach line name words body

/-- Words up to another token. -/
def readWords : Nat → List (List Piece) → Read (List (List Piece) × Token)
  | 0, done => return (done.reverse, .finish)
  | n + 1, done => do
    match ← nextToken n with
    | .word pieces => readWords n (pieces :: done)
    | t => return (done.reverse, t)

/-- What follows `case`. -/
def readCase : Nat → Nat → Read Command
  | 0, _ => return .skip
  | n + 1, line => do
    match ← nextToken n with
    | .word pieces =>
      let t ← nextBeyondLines n
      if !t.isSign "in" then unexpected t (some "in")
      return .select line pieces (← readBranches n [])
    | t => fail (t.name ++ " unexpected (expecting word)")

/-- The branches of a selection. -/
def readBranches : Nat → List Branch → Read (List Branch)
  | 0, done => return done.reverse
  | n + 1, done => do
    let t ← nextBeyondLines n
    if t.isSign "esac" then return done.reverse
    let t ← if t.isSign "(" then nextToken n else pure t
    let patterns ← readPatterns n t []
    let body ← readList n true false
    let branch := Branch.mk patterns body
    let t ← nextBeyondLines n
    if t.isSign "esac" then return (branch :: done).reverse
    if !t.isSign ";;" then unexpected t (some ";;")
    readBranches n (branch :: done)

/-- The patterns of a branch, from a token on. -/
def readPatterns : Nat → Token → List (List Piece) → Read (List (List Piece))
  | 0, _, done => return done.reverse
  | n + 1, t, done => do
    let pattern : List Piece := match t with
      | .word pieces => pieces
      | _ => []
    if !(t matches .word _) then unexpected t (some ")")
    let t ← nextToken n
    if t.isSign "|" then readPatterns n (← nextToken n) (pattern :: done)
    else if t.isSign ")" then return (pattern :: done).reverse
    else unexpected t.asWord (some ")")

/-- Redirections up to another token. -/
def readRedirections : Nat → Read (List Redirection)
  | 0 => return []
  | n + 1 => do
    match ← nextToken n with
    | .redirection number sign =>
      let first ← readRedirection n number sign
      return first :: (← readRedirections n)
    | t =>
      modify fun s => { s with held := some t }
      return []

/-- What follows a sign of redirection. -/
def readRedirection : Nat → Option Nat → String → Read Redirection
  | 0, _, _ => return .copy 0 []
  | n + 1, number, sign => do
    let isInput := sign.toList.head? = some '<'
    let descriptor := number.getD (if isInput then 0 else 1)
    if sign = "<<" || sign = "<<-" then
      let _ ← takeWhile fun c => c = ' ' || c = '\t'
      let start := (← get).rest.length
      let (word, quoted) ← delimiter n
      if (← get).rest.length = start then unexpected (← nextToken n) none
      let text ← takeDocument (sign = "<<-") word
      if quoted then return .document descriptor [.text text true]
      let s ← get
      set { s with rest := text, held := none }
      let pieces ← readPieces n .document []
      set s
      return .document descriptor pieces
    match ← nextToken n with
    | .word pieces =>
      return match sign with
      | "<&" | ">&" => .copy descriptor pieces
      | "<" => .file descriptor .read pieces
      | ">>" => .file descriptor .append pieces
      | "<>" => .file descriptor .both pieces
      | ">|" => .file descriptor .overwrite pieces
      | _ => .file descriptor .write pieces
    | t => unexpected t none

/-- A command of assignments, words and redirections, the last of which come first. -/
def readSimple : Nat → Nat → List Assignment → List (List Piece) → List Redirection → Read Command
  | 0, _, _, _, _ => return .skip
  | n + 1, line, assignments, words, redirections => do
    match ← nextToken n with
    | .word pieces =>
      match if words.isEmpty then assignment? pieces else none with
      | some assignment => readSimple n line (assignment :: assignments) words redirections
      | none => readSimple n line assignments (pieces :: words) redirections
    | .redirection number sign =>
      let redirection ← readRedirection n number sign
      readSimple n line assignments words (redirection :: redirections)
    | t =>
      let isDefinition := t.isSign "(" && words.length = 1 && assignments.isEmpty &&
        redirections.isEmpty
      if isDefinition then
        let t ← nextToken n
        if !t.isSign ")" then unexpected t.asWord (some ")")
        match (words.head?.bind plainText?).filter fun s => isName s && s ∉ specialNames with
        | none => fail "Bad function name"
        | some name =>
          let next ← nextBeyondLines n
          modify fun s => { s with held := some next }
          let line := (← get).line
          return .define line name (← readCommand n)
      else
        modify fun s => { s with held := some t }
        return .simple line assignments.reverse words.reverse redirections.reverse

end

/-- The next complete command of a script, and what follows it; none at its end. -/
def readCommand? (s : Source) : Except SyntaxFault (Option (Command × Source)) :=
  if (s.rest.dropWhile fun c => c = ' ' || c = '\t' || c = '\n').isEmpty && s.held.isNone then
    .ok none
  else
    let size := (s.aliases.map (·.2.length)).foldl (· + ·) 0 + 1
    (readList ((10 * s.rest.length + 100) * size) false true s).map fun (command, s) =>
      if s.held matches some .finish then some (command, { s with held := none, rest := [] })
      else some (command, s)

end PodMesh.Host.Shell
