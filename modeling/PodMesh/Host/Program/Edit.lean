import PodMesh.Host.Program.Lines

/-!
# Editing lines

A program of commands that are run on every line. A command may have an address: a number
of a line, the last line, an expression that the line matches, or a range from one address
to another.
-/

namespace PodMesh.Host.Program

open Call (has)

namespace Edit

/-- Which lines a command is for. -/
inductive Address where
  | line (n : Nat)
  | last
  | matching (regex : Regex)

/-- What a command does. -/
inductive Action where
  | substitute (regex : Regex) (replacement : List Char) (nth : Nat) (all prints anyCase : Bool)
  | replaceChars (old new : List Char)
  | print
  | drop
  | quit
  | number
  | append (text : List Char)
  | insert (text : List Char)
  | change (text : List Char)

structure Command where
  start : Option Address := none
  stop : Option Address := none
  negated : Bool := false
  action : Action

/-! ## Reading -/

/-- The text up to an unescaped delimiter, and what follows it. An escaped delimiter stands for
itself. -/
def upTo (delimiter : Char) : List Char → Option (List Char × List Char)
  | [] => none
  | '\\' :: c :: rest =>
    (upTo delimiter rest).map fun (text, rest) =>
      (if c = delimiter then c :: text else '\\' :: c :: text, rest)
  | c :: rest =>
    if c = delimiter then some ([], rest)
    else (upTo delimiter rest).map fun (text, rest) => (c :: text, rest)

/-- An address, if one comes next. -/
def address? (extended : Bool) (src : List Char) : Option (Address × List Char) :=
  match src with
  | '$' :: rest => some (.last, rest)
  | '/' :: rest =>
    match upTo '/' rest with
    | some (text, rest) => (Regex.read? extended text).map fun r => (.matching r, rest)
    | none => none
  | c :: _ =>
    if c.isDigit then
      let digits := src.takeWhile Char.isDigit
      some (.line (digits.foldl (fun n d => n * 10 + (d.toNat - '0'.toNat)) 0),
        src.drop digits.length)
    else none
  | [] => none

/-- The text of a command that adds lines, up to the end of its line. -/
def addedText (src : List Char) : List Char × List Char :=
  let src := src.dropWhile (· = ' ')
  let src := match src with
    | '\\' :: '\n' :: rest => rest
    | '\\' :: rest => rest
    | rest => rest
  (src.takeWhile (· ≠ '\n'), src.dropWhile (· ≠ '\n'))

/-- An action, from its letter on. -/
def action? (extended : Bool) (src : List Char) : Option (Action × List Char) :=
  match src with
  | 's' :: delimiter :: rest => do
    let (pattern, rest) ← upTo delimiter rest
    let (replacement, rest) ← upTo delimiter rest
    let regex ← Regex.read? extended pattern
    let isFlag (c : Char) : Bool := c.isDigit || c ∈ ['g', 'p', 'i', 'I']
    let flags := rest.takeWhile isFlag
    let digits := flags.filter Char.isDigit
    let nth := digits.foldl (fun n d => n * 10 + (d.toNat - '0'.toNat)) 0
    return (.substitute regex replacement (Nat.max 1 nth) ('g' ∈ flags) ('p' ∈ flags)
      ('i' ∈ flags || 'I' ∈ flags), rest.drop flags.length)
  | 'y' :: delimiter :: rest => do
    let (old, rest) ← upTo delimiter rest
    let (new, rest) ← upTo delimiter rest
    return (.replaceChars old new, rest)
  | 'p' :: rest => some (.print, rest)
  | 'd' :: rest => some (.drop, rest)
  | 'q' :: rest => some (.quit, rest)
  | '=' :: rest => some (.number, rest)
  | 'a' :: rest => some (.append (addedText rest).1, (addedText rest).2)
  | 'i' :: rest => some (.insert (addedText rest).1, (addedText rest).2)
  | 'c' :: rest => some (.change (addedText rest).1, (addedText rest).2)
  | _ => none

/-- Commands, separated by semicolons or newlines. Every step takes a character. -/
def read? (extended : Bool) : Nat → List Char → Option (List Command)
  | 0, _ => none
  | steps + 1, src =>
    match src.dropWhile fun c => c ∈ [' ', '\t', '\n', ';'] with
    | [] => some []
    | src => do
      let (start, src) := match address? extended src with
        | some (a, rest) => (some a, rest)
        | none => (none, src)
      let (stop, src) := match src with
        | ',' :: rest =>
          match address? extended (rest.dropWhile (· = ' ')) with
          | some (a, rest) => (some a, rest)
          | none => (none, ',' :: rest)
        | src => (none, src)
      let src := src.dropWhile (· = ' ')
      let (negated, src) := match src with
        | '!' :: rest => (true, rest.dropWhile (· = ' '))
        | src => (false, src)
      let (action, rest) ← action? extended src
      let rest := rest.dropWhile (· = ' ')
      if rest.head?.any fun c => c ∉ [';', '\n', '\x7d'] then none
      else return { start, stop, negated, action } :: (← read? extended steps rest)

/-! ## Running -/

/-- The text that a replacement gives for a match. -/
def expand (s : Regex.Subject) (start : Nat) (spot : Regex.Spot) : List Char → List Char
  | '\\' :: c :: rest =>
    let piece : List Char :=
      if c.isDigit then
        match if c = '0' then some (start, spot.place) else spot.group? (c.toNat - '0'.toNat) with
        | some (a, b) => s.slice a b
        | none => []
      else if c = 'n' then ['\n']
      else if c = 't' then ['\t']
      else [c]
    piece ++ expand s start spot rest
  | '&' :: rest => s.slice start spot.place ++ expand s start spot rest
  | c :: rest => c :: expand s start spot rest
  | [] => []

/-- A text with matches replaced from some place on, and whether there was one. Every step goes on
by a character at least. -/
def replace (regex : Regex) (s : Regex.Subject) (replacement : List Char) (nth : Nat) (all : Bool) :
    Nat → Nat → Nat → List Char × Bool
  | 0, place, _ => (s.slice place s.text.size, false)
  | steps + 1, place, count =>
    match regex.search? s place with
    | none => (s.slice place s.text.size, false)
    | some (start, spot) =>
      let before := s.slice place start
      let count := count + 1
      let hit := count = nth || (all && nth ≤ count)
      let here := if hit then expand s start spot replacement else s.slice start spot.place
      let gap := if spot.place = start then s.slice start (start + 1) else []
      let next := if spot.place = start then start + 1 else spot.place
      if hit && !all then (before ++ here ++ s.slice spot.place s.text.size, true)
      else if s.text.size < next then (before ++ here, hit)
      else
        let (rest, more) := replace regex s replacement nth all steps next count
        (before ++ here ++ gap ++ rest, hit || more)

/-- A line under way. -/
structure Line where
  number : Nat
  isLast : Bool
  text : List Char
  printed : List (List Char) := []
  appended : List (List Char) := []
  dropped : Bool := false
  quits : Bool := false

/-- Does an address stand for a line? -/
def Address.covers (a : Address) (line : Line) : Bool :=
  match a with
  | .line n => line.number = n
  | .last => line.isLast
  | .matching regex => (regex.search? { text := line.text.toArray } 0).isSome

/-- Is a command for a line, and is its range still open behind it, given whether it was before? -/
def Command.applies (c : Command) (line : Line) (isOpen : Bool) : Bool × Bool :=
  match c.start, c.stop with
  | none, _ => (true, false)
  | some start, none => (start.covers line, false)
  | some start, some stop =>
    let ends (first : Bool) : Bool := match stop with
      | .line n => n ≤ line.number
      | a => !first && a.covers line
    if isOpen then (true, !ends false)
    else if start.covers line then (true, !ends true)
    else (false, false)

/-- Runs an action on a line. -/
def Action.run (a : Action) (line : Line) : Line :=
  match a with
  | .substitute regex replacement nth all prints anyCase =>
    let subject : Regex.Subject := { text := line.text.toArray, anyCase }
    let (text, changed) := replace regex subject replacement nth all (line.text.length + 2) 0 0
    let line := { line with text }
    if changed && prints then { line with printed := line.printed ++ [text] } else line
  | .replaceChars old new =>
    { line with text := line.text.map fun c =>
        if c ∈ old then (new[old.idxOf c]?).getD c else c }
  | .print => { line with printed := line.printed ++ [line.text] }
  | .drop => { line with dropped := true }
  | .quit => { line with quits := true }
  | .number => { line with printed := line.printed ++ [(toString line.number).toList] }
  | .append text => { line with appended := line.appended ++ [text] }
  | .insert text => { line with printed := line.printed ++ [text] }
  | .change text => { line with printed := line.printed ++ [text], dropped := true }

/-- Runs commands on a line, each with whether its range is open. A line that was dropped, or is the
last one to be read, ends its run. -/
def runAll (line : Line) : List (Command × Bool) → Line × List (Command × Bool)
  | [] => (line, [])
  | (c, isOpen) :: rest =>
    if line.dropped || line.quits then (line, (c, isOpen) :: rest)
    else
      let (covered, isOpen) := c.applies line isOpen
      let line := if covered != c.negated then c.action.run line else line
      let (line, rest) := runAll line rest
      (line, (c, isOpen) :: rest)

/-- What commands print for some lines. -/
def runLines (quiet : Bool) : Nat → List (Command × Bool) → List (List Char) → List (List Char)
  | _, _, [] => []
  | n, commands, text :: rest =>
    let (line, commands) := runAll { number := n + 1, isLast := rest.isEmpty, text } commands
    let out := line.printed ++ (if quiet || line.dropped then [] else [line.text]) ++ line.appended
    if line.quits then out else out ++ runLines quiet (n + 1) commands rest

end Edit

/-- Edits lines. -/
def sed (call : Call) : Effect :=
  let options : Call.Options :=
    { plain := ['n', 'E', 'r', 's', 'u', 'z'], valued := ['e', 'f'],
      long := [("quiet", 'n'), ("silent", 'n'), ("regexp-extended", 'E'), ("expression", 'e')] }
  call.withOptions options 1 fun given operands =>
    let scripts := (given.filter (·.letter = 'e')).map (·.value)
    let (scripts, names) := match scripts, operands with
      | [], first :: rest => ([first], rest)
      | scripts, names => (scripts, names)
    if scripts.isEmpty then call.missing "no script specified" 1
    else
      let script := ("\n".intercalate scripts).toList
      match Edit.read? (has given 'E' || has given 'r') (script.length + 1) script with
      | none => call.complaint "-e expression #1, char 1: unknown command" 1
      | some commands =>
        gathering call names fun text =>
          let out := Edit.runLines (has given 'n') 0 (commands.map (·, false)) (lines text)
          let out := unlines out
          .printing (if text.isEmpty || text.getLast? = some '\n' then out
            else String.ofList out.toList.dropLast)

end PodMesh.Host.Program
