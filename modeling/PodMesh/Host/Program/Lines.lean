import PodMesh.Host.Effect
import PodMesh.Host.Format
import PodMesh.Host.Matching

/-!
# Programs that pass on what they read

Programs that read files, or their input where no file is named, and print all of it, some
of it or something about it.
-/

namespace PodMesh.Host.Program

open Call (Given has value? shown)

/-! ## Reading -/

/-- A name, and what it led to. -/
structure Source where
  name : String
  input : Input

/-- What is read from some names, or from the input if there are none, with the complaints about
those that lead to nothing. -/
def sources (call : Call) (names : List String) : List (Except Effect Source) :=
  (if names.isEmpty then ["-"] else names).map fun name =>
    match call.openDash? name with
    | .ok input => .ok ⟨name, input⟩
    | .error fault => .error (call.complaint (shown name ++ ": " ++ fault.words) 1)

/-- What some programs do with all they read: its text in one piece. -/
def gathering (call : Call) (names : List String) (use : List Char → Effect) : Effect :=
  let found := sources call names
  let text := found.flatMap fun s => match s with
    | .ok source => source.input.text
    | .error _ => []
  let complaints := found.foldl (fun (e : Effect) s => match s with
    | .ok _ => e
    | .error complaint => e.next complaint) {}
  let endless := found.any fun s => match s with
    | .ok source => source.input.endless
    | .error _ => false
  let used := complaints.next (use text)
  { used with
    endless
    outputs := if endless then [] else used.outputs
    left := call.leftBy (if names.isEmpty then ["-"] else names) }

/-- The lines of a text without the newlines that end them. -/
def lines (text : List Char) : List (List Char) :=
  if text.isEmpty then []
  else
    let pieces := Text.splitOn '\n' text
    if pieces.getLast? = some [] then pieces.dropLast else pieces

/-- Lines with a newline behind each. -/
def unlines (lines : List (List Char)) : String :=
  String.ofList (lines.flatMap (· ++ ['\n']))

/-- Prints files one after the other. -/
def cat (call : Call) : Effect :=
  let options : Call.Options :=
    { plain := ['u', 'n', 'b', 'e', 's', 't', 'v', 'A', 'E', 'T'], long := [("number", 'n')] }
  call.withOptions options 1 fun given names =>
    let names := if names.isEmpty then ["-"] else names
    let shownLines (text : List Char) : List Char :=
      if has given 'E' || has given 'e' || has given 'A' then
        text.flatMap fun c => if c = '\n' then ['$', '\n'] else [c]
      else text
    let numbered (text : List Char) : List Char :=
      let ended := text.getLast? = some '\n'
      let count (line : List Char) : Bool := has given 'n' && !has given 'b' || !line.isEmpty
      let step (state : Nat × List Char) (line : List Char) : Nat × List Char :=
        let (n, out) := state
        if count line then
          let digits := Nat.toDigits 10 (n + 1)
          (n + 1, out ++ List.replicate (6 - digits.length) ' ' ++ digits ++ '\t' :: line ++ ['\n'])
        else (n, out ++ line ++ ['\n'])
      let out := ((lines text).foldl step (0, [])).2
      if ended then out else out.dropLast
    if has given 'n' || has given 'b' then
      gathering call names fun text => .printing (String.ofList (shownLines (numbered text)))
    else
      let effect := (sources call names).foldl (fun (e : Effect) s =>
        if e.endless then e
        else
          match s with
          | .error complaint => e.next complaint
          | .ok source =>
            { e.print (String.ofList (shownLines source.input.text)) with
              endless := source.input.endless }) {}
      { effect with left := call.leftBy names }

/-! ## Parts of files -/

/-- The number that an option's value writes, and whether a sign stands in front. -/
def countOf (value : String) : Option (Option Char × Nat) :=
  let (sign, digits) := match value.toList with
    | '-' :: rest => (some '-', rest)
    | '+' :: rest => (some '+', rest)
    | rest => (none, rest)
  let number := digits.takeWhile Char.isDigit
  let unit : Option Nat := match String.ofList (digits.drop number.length) with
    | "" => some 1
    | "b" => some 512
    | "K" | "k" | "KiB" => some 1024
    | "kB" => some 1000
    | "M" => some 1048576
    | _ => none
  if number.isEmpty then none
  else unit.map fun u => (sign, u * number.foldl (fun n c => n * 10 + (c.toNat - '0'.toNat)) 0)

/-- The first lines of a text, as many as asked for. -/
def firstLines : Nat → List Char → List Char
  | 0, _ | _, [] => []
  | n + 1, c :: rest => c :: firstLines (if c = '\n' then n else n + 1) rest

/-- Arguments in which a number of lines may be written as an option alone. -/
def withCounts (args : List String) : List String :=
  match args with
  | first :: rest =>
    match first.toList with
    | '-' :: d :: more =>
      if d.isDigit then "-n" :: String.ofList (d :: more) :: rest else first :: rest
    | _ => first :: rest
  | [] => []

/-- Options for a number of lines or of bytes. -/
def countOptions : Call.Options :=
  { plain := ['q', 'v', 'z', 'f'], valued := ['n', 'c', 's'],
    long := [("lines", 'n'), ("bytes", 'c'), ("quiet", 'q'), ("verbose", 'v')] }

/-- Prints a part of every file, with headings where there are several. -/
def parts (call : Call) (part : Option Char → Nat → Bool → List Char → List Char)
    (enough : Nat → Bool → List Char → Bool) (stopsEarly : Bool) : Effect :=
  let call := { call with arguments := withCounts call.arguments }
  call.withOptions countOptions 1 fun given names =>
    let counts := given.filter fun g => g.letter = 'n' || g.letter = 'c'
    let chosen := counts.getLast?
    let inBytes := chosen.any (·.letter = 'c')
    match counts.find? fun g => (countOf g.value).isNone with
    | some wrong =>
      call.complaint ("invalid number of " ++ (if wrong.letter = 'c' then "bytes" else "lines") ++
        ": '" ++ wrong.value ++ "'") 1
    | none =>
      let (sign, n) := (chosen.bind fun g => countOf g.value).getD (none, 10)
      let names := if names.isEmpty then ["-"] else names
      let headed := (1 < names.length || has given 'v') && !has given 'q'
      let shownName (name : String) : String := if name = "-" then "standard input" else name
      let step (state : Effect × Bool) (name : String) : Effect × Bool :=
        let (e, started) := state
        match call.openDash? name with
        | .error fault =>
          (e.next (call.complaint
            ("cannot open '" ++ name ++ "' for reading: " ++ fault.words) 1), started)
        | .ok input =>
          let heading := if headed then
            (if started then "\n" else "") ++ "==> " ++ shownName name ++ " <==\n" else ""
          let out := part sign n inBytes input.text
          let e := if heading.isEmpty then e else e.print heading
          let settled := sign.isNone && stopsEarly && enough n inBytes input.text
          ({ e.print (String.ofList out) with
            endless := e.endless || (input.endless && !settled) }, true)
      let (effect, _) := names.foldl step ({}, false)
      let left : Option (List Char) := match call.leftBy names with
        | none => none
        | some rest =>
          if stopsEarly && call.input.seekable then
            some (call.input.text.drop (part sign n inBytes call.input.text).length)
          else some rest
      { effect with left }

/-- Prints the start of files. -/
def head (call : Call) : Effect :=
  parts call
    (fun sign n inBytes text =>
      match sign, inBytes with
      | some '-', true => text.take (text.length - n)
      | some '-', false => firstLines ((lines text).length - n) text
      | _, true => text.take n
      | _, false => firstLines n text)
    (fun n inBytes text => if inBytes then n ≤ text.length else n ≤ (text.filter (· = '\n')).length)
    true

/-- What is left of a text without its first lines. -/
def afterLines : Nat → List Char → List Char
  | 0, text => text
  | _, [] => []
  | n + 1, c :: rest => if c = '\n' then afterLines n rest else afterLines (n + 1) rest

/-- Prints the end of files. -/
def tail (call : Call) : Effect :=
  parts call
    (fun sign n inBytes text =>
      match sign, inBytes with
      | some '+', true => text.drop (n - 1)
      | some '+', false => afterLines (n - 1) text
      | _, true => text.drop (text.length - n)
      | _, false => afterLines ((lines text).length - n) text)
    (fun _ _ _ => false) false

/-- The words between blanks of ASCII. -/
def blankWords (text : List Char) : List (List Char) :=
  let isBlank (c : Char) : Bool := c = ' ' || ('\t' ≤ c && c ≤ '\r')
  let step (c : Char) (state : List (List Char) × List Char) : List (List Char) × List Char :=
    let (words, word) := state
    if isBlank c then (if word.isEmpty then words else word :: words, []) else (words, c :: word)
  let (words, word) := text.foldr step ([], [])
  if word.isEmpty then words else word :: words

/-- Counts lines, words and bytes. -/
def wc (call : Call) : Effect :=
  let options : Call.Options :=
    { plain := ['l', 'w', 'c', 'm', 'L'],
      long := [("lines", 'l'), ("words", 'w'), ("bytes", 'c'), ("chars", 'm')] }
  call.withOptions options 1 fun given names =>
    let wanted (letter : Char) : Bool := given.isEmpty || has given letter
    let counts (text : List Char) : List Nat :=
      (if wanted 'l' then [(text.filter (· = '\n')).length] else []) ++
      (if wanted 'w' then [(blankWords text).length] else []) ++
      (if has given 'm' then [text.length] else []) ++
      (if wanted 'c' then [text.length] else []) ++
      (if has given 'L' then [((lines text).map List.length).foldl Nat.max 0] else [])
    let found := sources call names
    let all := found.filterMap fun s => s.toOption
    let sums := (all.map fun s => counts s.input.text)
    let total := sums.foldl (fun a b => (a.zip b).map fun (x, y) => x + y) (counts [])
    let several := 1 < names.length
    let column := (counts []).length
    let fromInput := all.any fun s => !s.input.seekable
    let widest := (if several then total else sums.flatten).foldl
      (fun n x => Nat.max n (Nat.toDigits 10 x).length) 1
    let width := if column = 1 && !several then 1
      else if fromInput then Nat.max 7 widest
      else
        let bytes := (all.map fun s => s.input.text.length).foldl (· + ·) 0
        Nat.max (Nat.toDigits 10 bytes).length 1
    let row (numbers : List Nat) (name : String) : String :=
      " ".intercalate (numbers.map fun n =>
        let digits := Nat.toDigits 10 n
        String.ofList (List.replicate (width - digits.length) ' ' ++ digits)) ++
        (if name.isEmpty then "" else " " ++ name) ++ "\n"
    let effect := found.foldl (fun (e : Effect) s => match s with
      | .error complaint => e.next complaint
      | .ok source =>
        { e.print (row (counts source.input.text) (if names.isEmpty then "" else source.name)) with
          endless := e.endless || source.input.endless }) {}
    let effect := if several then effect.print (row total "total") else effect
    { effect with left := call.leftBy (if names.isEmpty then ["-"] else names) }

/-! ## Sets of characters -/

/-- The characters of a set that names, ranges and repetitions write, after its escapes. An escaped
character is no sign. Every step takes a character. -/
def setChars : Nat → List (Char × Bool) → List Char
  | 0, _ | _, [] => []
  | steps + 1, ('[', false) :: (':', false) :: rest =>
    let name := (rest.takeWhile (·.1 ≠ ':')).map (·.1)
    match Regex.namedRanges? name, rest.drop name.length with
    | some ranges, (':', _) :: (']', _) :: rest =>
      let all := (List.range 256).map Char.ofNat
      all.filter (fun c => ranges.any fun (low, high) => low ≤ c && c ≤ high) ++ setChars steps rest
    | _, _ => '[' :: setChars steps ((':', false) :: rest)
  | steps + 1, (low, _) :: ('-', false) :: (high, _) :: rest =>
    (List.range (high.toNat + 1 - low.toNat)).map (fun i => Char.ofNat (low.toNat + i)) ++
      setChars steps rest
  | steps + 1, (c, _) :: rest => c :: setChars steps rest

/-- The characters of a set, each with whether it was escaped. -/
def escapedChars : Nat → List Char → List (Char × Bool)
  | 0, _ | _, [] => []
  | steps + 1, '\\' :: c :: rest =>
    match Escapes.letters.lookup c with
    | some d => (d, true) :: escapedChars steps rest
    | none =>
      if Escapes.isOctal c then
        let (value, rest) := Escapes.octal 3 0 (c :: rest)
        (Char.ofNat (value % 256), true) :: escapedChars steps rest
      else (c, true) :: escapedChars steps rest
  | steps + 1, c :: rest => (c, false) :: escapedChars steps rest

def byteSet (text : String) : List Char :=
  setChars text.length (escapedChars text.length text.toList)

/-- Runs of a character that is in a set, each shortened to one. -/
def squeeze (set : List Char) : List Char → List Char
  | a :: b :: rest =>
    if a = b && a ∈ set then squeeze set (b :: rest) else a :: squeeze set (b :: rest)
  | rest => rest

/-- Replaces characters of the input, or drops them, or shortens runs of them. -/
def tr (call : Call) : Effect :=
  let options : Call.Options :=
    { plain := ['c', 'C', 'd', 's', 't'], leading := true,
      long := [("complement", 'c'), ("delete", 'd'), ("squeeze-repeats", 's'),
        ("truncate-set1", 't')] }
  call.withOptions options 1 fun given sets =>
    let drops := has given 'd'
    let squeezes := has given 's'
    let complement (set : List Char) : List Char :=
      if has given 'c' || has given 'C' then
        ((List.range 256).map Char.ofNat).filter (· ∉ set)
      else set
    let needed := if drops = squeezes then 2 else 1
    match sets with
    | [] => call.missing "missing operand" 1
    | first :: rest =>
      match rest with
      | [] =>
        if 1 < needed then
          { outputs := [.err (call.name ++ ": missing operand after '" ++ first ++ "'\n" ++
              (if drops then "Two strings must be given when both deleting and squeezing repeats.\n"
              else "Two strings must be given when translating.\n") ++
              "Try '" ++ call.name ++ " --help' for more information.\n")]
            status := 1 }
        else
          let set := complement (byteSet first)
          gathering call [] fun text =>
            .printing (String.ofList (if drops then text.filter (· ∉ set) else squeeze set text))
      | second :: extra =>
        if !extra.isEmpty || (drops && !squeezes) then
          call.missing ("extra operand '" ++ (if extra.isEmpty then second else extra.headD "") ++
            "'") 1
        else
          let set := complement (byteSet first)
          let replacements := byteSet second
          gathering call [] fun text =>
            if drops then
              .printing (String.ofList (squeeze replacements (text.filter (· ∉ set))))
            else
              let replaced := text.map fun c =>
                if c ∈ set then
                  if has given 't' then (replacements[set.idxOf c]?).getD c
                  else ((replacements[set.idxOf c]?).or replacements.getLast?).getD c
                else c
              .printing (String.ofList (if squeezes then squeeze replacements replaced
                else replaced))

/-! ## Order -/

/-- The fields of a line: those between separators, or those that blanks stand in front of. -/
def fieldsOf (separator : Option Char) (line : List Char) : List (List Char) :=
  match separator with
  | some c => Text.splitOn c line
  | none =>
    let isBlank (c : Char) : Bool := c = ' ' || c = '\t'
    let rec go : Nat → List Char → List (List Char)
      | 0, _ | _, [] => []
      | n + 1, cs =>
        let blanks := cs.takeWhile isBlank
        let word := (cs.drop blanks.length).takeWhile (!isBlank ·)
        (blanks ++ word) :: go n (cs.drop (blanks.length + word.length))
    go line.length line

/-- A key that lines are compared by: the first field and the last, the flags of the comparison. -/
structure SortKey where
  first : Nat
  last : Option Nat
  flags : List Char

def SortKey.read (text : String) : SortKey :=
  let number (cs : List Char) : Nat :=
    (cs.takeWhile Char.isDigit).foldl (fun n c => n * 10 + (c.toNat - '0'.toNat)) 0
  match Text.splitOnce ',' text.toList with
  | some (a, b) => ⟨number a, some (number b), (a ++ b).filter Char.isAlpha⟩
  | none => ⟨number text.toList, none, text.toList.filter Char.isAlpha⟩

/-- The part of a line that a key compares. -/
def SortKey.part (key : SortKey) (separator : Option Char) (line : List Char) : List Char :=
  let fields := (fieldsOf separator line).drop (key.first - 1)
  let fields := match key.last with
    | some last => fields.take (last + 1 - key.first)
    | none => fields
  match separator with
  | some c => [c].intercalate fields
  | none => fields.flatten

/-- The number at the front of a text, in millionths. -/
def frontNumber (text : List Char) : Int :=
  let (negative, rest) := match text.dropWhile fun c => c = ' ' || c = '\t' with
    | '-' :: rest => (true, rest)
    | rest => (false, rest)
  let digits (cs : List Char) : Nat := cs.foldl (fun n c => n * 10 + (c.toNat - '0'.toNat)) 0
  let whole := rest.takeWhile Char.isDigit
  let places := match rest.drop whole.length with
    | '.' :: more => more.takeWhile Char.isDigit
    | _ => []
  let n := digits whole * 1000000 + digits ((places ++ List.replicate 6 '0').take 6)
  if negative then -(n : Int) else n

/-- How two parts compare under some flags. -/
def compareParts (flags : List Char) (a b : List Char) : Ordering :=
  let plain (cs : List Char) : List Char :=
    let cs := if 'b' ∈ flags then cs.dropWhile fun c => c = ' ' || c = '\t' else cs
    let cs := if 'd' ∈ flags then cs.filter fun c => c.isAlphanum || c = ' ' || c = '\t' else cs
    if 'f' ∈ flags then cs.map Char.toUpper else cs
  let order :=
    if 'n' ∈ flags || 'g' ∈ flags || 'h' ∈ flags then compare (frontNumber a) (frontNumber b)
    else compare (String.ofList (plain a)) (String.ofList (plain b))
  if 'r' ∈ flags then order.swap else order

/-- Prints lines in order. -/
def sort (call : Call) : Effect :=
  let options : Call.Options :=
    { plain := ['n', 'r', 'u', 'f', 'b', 'd', 'g', 'h', 's', 'c', 'i', 'm', 'z', 'V', 'C'],
      valued := ['k', 't', 'o'],
      long := [("numeric-sort", 'n'), ("reverse", 'r'), ("unique", 'u'), ("ignore-case", 'f'),
        ("key", 'k'), ("field-separator", 't'), ("output", 'o'), ("stable", 's')] }
  call.withOptions options 2 fun given names =>
    let flags := given.filterMap fun g => if g.value.isEmpty then some g.letter else none
    let separator := (value? given 't').bind fun t => t.toList.head?
    let keys := (given.filter (·.letter = 'k')).map fun g => SortKey.read g.value
    let byKeys (a b : List Char) : Ordering :=
      if keys.isEmpty then compareParts flags a b
      else
        keys.foldl (fun o key => o.then
          (compareParts (if key.flags.isEmpty then flags else key.flags)
            (key.part separator a) (key.part separator b))) .eq
    let whole (a b : List Char) : Ordering :=
      let last := compare (String.ofList a) (String.ofList b)
      (byKeys a b).then
        (if has given 's' || has given 'u' then .eq
        else if has given 'r' then last.swap else last)
    let lost := names.findSome? fun name => match call.openDash? name with
      | .error fault => some ("cannot read: " ++ shown name ++ ": " ++ fault.words)
      | .ok _ => none
    let extra := names.getD 1 ""
    if has given 'c' && 1 < names.length then
      call.complaint ("extra operand '" ++ extra ++ "' not allowed with -c") 2
    else if let some words := lost then call.complaint words 2
    else gathering call names fun text =>
      let all := lines text
      if has given 'c' || has given 'C' then
        let wrong := (all.zip (all.drop 1)).findIdx fun (a, b) => whole a b = .gt
        if wrong + 1 < all.length then
          let message := call.name ++ ": " ++ names.headD "-" ++ ":" ++ toString (wrong + 2) ++
            ": disorder: " ++ String.ofList (all.getD (wrong + 1) []) ++ "\n"
          { outputs := if has given 'C' then [] else [.err message], status := 1 }
        else {}
      else
        let sorted := all.mergeSort fun a b => whole a b ≠ .gt
        let kept := if has given 'u' then
            sorted.foldr (fun line kept => match kept with
              | next :: _ => if byKeys line next = .eq then line :: kept.drop 1 else line :: kept
              | [] => [line]) []
          else sorted
        match value? given 'o' with
        | some name =>
          match call.files.create (Call.fileName name) true with
          | .ok (place, files) =>
            { files := some (files.write place 0 (Text.Octets.toBytes (unlines kept))) }
          | .error fault => call.complaint ("open failed: " ++ name ++ ": " ++ fault.words) 2
        | none => .printing (unlines kept)

/-- Runs of equal neighbours, with their lengths. -/
def runs (same : List Char → List Char → Bool) : List (List Char) → List (Nat × List Char)
  | [] => []
  | line :: rest =>
    match runs same rest with
    | (n, next) :: more =>
      if same line next then (n + 1, line) :: more else (1, line) :: (n, next) :: more
    | [] => [(1, line)]

/-- Prints one of neighbours that are equal. A third operand is complained about before what follows
it is looked at. -/
def uniq (call : Call) : Effect :=
  let options : Call.Options :=
    { plain := ['c', 'd', 'u', 'i', 'D', 'z'], valued := ['f', 's', 'w'],
      long := [("count", 'c'), ("repeated", 'd'), ("unique", 'u'), ("ignore-case", 'i')] }
  let third := (List.range (call.arguments.length + 1)).findSome? fun n =>
    match options.split none (call.arguments.take n) with
    | .ok (_, _ :: _ :: extra :: _) => some extra
    | _ => none
  let known := { call with arguments := match third with
    | some extra => call.arguments.takeWhile (· ≠ extra)
    | none => call.arguments }
  known.withOptions options 1 fun given names =>
    if let some extra := third then call.missing ("extra operand '" ++ extra ++ "'") 1 else
    let number (letter : Char) : Nat := ((value? given letter).bind String.toNat?).getD 0
    let key (line : List Char) : List Char :=
      let line := ((fieldsOf none line).drop (number 'f')).flatten.drop (number 's')
      let line := if (value? given 'w').isSome then line.take (number 'w') else line
      if has given 'i' then line.map Char.toLower else line
    let counted (n : Nat) (line : List Char) : List Char :=
      if has given 'c' then
        let digits := Nat.toDigits 10 n
        List.replicate (7 - digits.length) ' ' ++ digits ++ ' ' :: line
      else line
    gathering call (names.take 1) fun text =>
      let found := runs (fun a b => key a = key b) (lines text)
      let kept := found.filter fun (n, _) =>
        (!has given 'd' || 1 < n) && (!has given 'u' || n = 1)
      .printing (unlines (kept.map fun (n, line) => counted n line))

/-! ## Columns -/

/-- The places that a list of numbers and ranges chooses, as a test of numbers from 1. -/
def chosen? (list : String) : Option (Nat → Bool) :=
  let piece (cs : List Char) : Option (Nat → Bool) :=
    let number (cs : List Char) : Option Nat :=
      if cs.isEmpty || !cs.all Char.isDigit then none
      else some (cs.foldl (fun n c => n * 10 + (c.toNat - '0'.toNat)) 0)
    match Text.splitOnce '-' cs with
    | none => (number cs).bind fun n => if n = 0 then none else some (· = n)
    | some (a, b) =>
      match number a, number b with
      | some a, some b => some fun n => a ≤ n && n ≤ b
      | some a, none => if b.isEmpty then some (a ≤ ·) else none
      | none, some b => if a.isEmpty then some (· ≤ b) else none
      | none, none => none
  ((Text.splitOn ',' list.toList).mapM piece).map fun tests n => tests.any (· n)

/-- Numbers from 1 with the elements of a list. -/
def numbered {α : Type} (xs : List α) : List (Nat × α) := xs.mapIdx fun i x => (i + 1, x)

/-- Prints chosen parts of lines. -/
def cut (call : Call) : Effect :=
  let options : Call.Options :=
    { plain := ['s', 'n', 'z'], valued := ['f', 'd', 'c', 'b', 'O'],
      long := [("fields", 'f'), ("delimiter", 'd'), ("characters", 'c'), ("bytes", 'b'),
        ("only-delimited", 's'), ("complement", 'C'), ("output-delimiter", 'O')] }
  call.withOptions { options with plain := 'C' :: options.plain } 1 fun given names =>
    let fields := has given 'f'
    match given.filter fun g => g.letter ∈ ['f', 'c', 'b'] with
    | [] => call.missing "you must specify a list of bytes, characters, or fields" 1
    | _ :: _ :: _ => call.missing "only one list may be specified" 1
    | [list] =>
      if !fields && has given 'd' then
        call.missing "an input delimiter may be specified only when operating on fields" 1
      else if !fields && has given 's' then
        call.missing
          "suppressing non-delimited lines makes sense\n\tonly when operating on fields" 1
      else
      match chosen? list.value with
      | none =>
        let strange := list.value.toList.dropWhile fun c => c.isDigit || c = '-' || c = ','
        call.missing ("invalid " ++
          (if strange.isEmpty then (if fields then "field range" else "byte/character range")
          else (if fields then "field value '" else "byte/character position '") ++
            String.ofList strange ++ "'")) 1
      | some test =>
        let test (n : Nat) : Bool := test n != has given 'C'
        let delimiter := ((value? given 'd').bind fun d => d.toList.head?).getD '\t'
        let joint := ((value? given 'O').map String.toList).getD [delimiter]
        gathering call names fun text =>
          let part (line : List Char) : Option (List Char) :=
            if fields then
              if delimiter ∈ line then
                some (joint.intercalate
                  (((numbered (Text.splitOn delimiter line)).filter fun p => test p.1).map (·.2)))
              else if has given 's' then none
              else some line
            else some (((numbered line).filter fun p => test p.1).map (·.2))
          .printing (unlines ((lines text).filterMap part))

/-- Prints lines backwards. -/
def rev (call : Call) : Effect :=
  call.withOptions { plain := ['0', 'h', 'V'] } 1 fun _ names =>
    gathering call names fun text =>
      let ended := text.getLast? = some '\n'
      let out := unlines ((lines text).map List.reverse)
      .printing (if ended then out else String.ofList out.toList.dropLast)

/-- Prints the last line first. -/
def tac (call : Call) : Effect :=
  call.withOptions { plain := ['b', 'r'], valued := ['s'] } 1 fun _ names =>
    gathering call names fun text =>
      let pieces := (Text.splitOn '\n' text)
      let ended := pieces.getLast? = some []
      let all := if ended then pieces.dropLast.map (· ++ ['\n'])
        else pieces.mapIdx fun i p => if i + 1 = pieces.length then p else p ++ ['\n']
      .printing (String.ofList all.reverse.flatten)

/-- Prints lines with their numbers. -/
def nl (call : Call) : Effect :=
  call.withOptions { plain := ['p'], valued := "bdfhilnsvw".toList } 1 fun given names =>
    let all := value? given 'b' = some "a"
    let width := ((value? given 'w').bind String.toNat?).getD 6
    let separator := (value? given 's').getD "\t"
    gathering call names fun text =>
      let step (state : Nat × List (List Char)) (line : List Char) : Nat × List (List Char) :=
        let (n, out) := state
        if all || !line.isEmpty then
          let digits := Nat.toDigits 10 (n + 1)
          let number := List.replicate (width - digits.length) ' ' ++ digits ++ separator.toList
          (n + 1, (number ++ line) :: out)
        else (n, List.replicate (width + separator.length) ' ' :: out)
      .printing (unlines ((lines text).foldl step (0, [])).2.reverse)

/-- Joins lines, with tabs between them. -/
def paste (call : Call) : Effect :=
  call.withOptions { plain := ['s', 'z'], valued := ['d'] } 1 fun given names =>
    let delimiters := ((value? given 'd').getD "\t").toList
    let joint (i : Nat) : Char := (delimiters[i % Nat.max 1 delimiters.length]?).getD '\t'
    let join (row : List (List Char)) : List Char :=
      (row.mapIdx fun i cell => if i = 0 then cell else joint (i - 1) :: cell).flatten
    let all := (sources call names).filterMap fun s => s.toOption
    let columns := all.map fun s => lines s.input.text
    let height := (columns.map List.length).foldl Nat.max 0
    let rows := if has given 's' then columns
      else (List.range height).map fun i => columns.map fun c => c.getD i []
    { outputs := [.out (unlines (rows.map join))]
      left := call.leftBy (if names.isEmpty then ["-"] else names)
      endless := all.any (·.input.endless) }

/-- Prints the input and writes it to files. -/
def tee (call : Call) : Effect :=
  call.withOptions { plain := ['a', 'i', 'p'] } 1 fun given names =>
    gathering call [] fun text =>
      let bytes := Text.Octets.toBytes (String.ofList text)
      let step (state : Effect × Files) (name : String) : Effect × Files :=
        let (e, files) := state
        match files.create (Call.fileName name) !(has given 'a') with
        | .ok (place, files) =>
          let size := match files.node? place with
            | some (.file content _) => content.length
            | _ => 0
          (e, files.write place size bytes)
        | .error fault => (e.next (call.complaint (shown name ++ ": " ++ fault.words) 1), files)
      let (effect, files) := names.foldl step ({}, call.files)
      { effect.print (String.ofList text) with files := some files }

/-! ## Searching -/

/-- Prints the lines that an expression matches. -/
def grep (call : Call) : Effect :=
  let options : Call.Options :=
    { plain := ['q', 'v', 'i', 'c', 'n', 'o', 'E', 'F', 'w', 'x', 'l', 'L', 's', 'h', 'H', 'G', 'a',
        'y'],
      valued := ['e', 'm', 'f', 'A', 'B', 'C'],
      long := [("quiet", 'q'), ("silent", 'q'), ("invert-match", 'v'), ("ignore-case", 'i'),
        ("count", 'c'), ("line-number", 'n'), ("only-matching", 'o'), ("extended-regexp", 'E'),
        ("fixed-strings", 'F'), ("word-regexp", 'w'), ("line-regexp", 'x'),
        ("files-with-matches", 'l'), ("regexp", 'e'), ("max-count", 'm'), ("no-messages", 's')] }
  let usage : Effect :=
    { outputs := [.err ("Usage: " ++ call.name ++ " [OPTION]... PATTERNS [FILE]...\nTry '" ++
        call.name ++ " --help' for more information.\n")]
      status := 2 }
  match options.split none call.arguments with
  | .error message =>
    { usage with outputs := .err (call.name ++ ": " ++ message ++ "\n") :: usage.outputs }
  | .ok (given, operands) =>
    let patterns := (given.filter (·.letter = 'e')).map (·.value)
    let (patterns, names) := match patterns, operands with
      | [], first :: rest => ([first], rest)
      | patterns, names => (patterns, names)
    if patterns.isEmpty then usage
    else
      let extended := has given 'E' || call.name = "egrep"
      let wanted := patterns.flatMap fun p => Text.splitOn '\n' p.toList
      let read (p : List Char) : Option Regex :=
        if has given 'F' || call.name = "fgrep" then some (.literal p) else Regex.read? extended p
      match wanted.mapM read with
      | none => call.complaint "Invalid regular expression" 2
      | some regexes =>
        let anyCase := has given 'i' || has given 'y'
        let found (line : List Char) : List (Nat × Nat) :=
          let subject : Regex.Subject := { text := line.toArray, anyCase }
          let fits (start stop : Nat) : Bool :=
            (!has given 'x' || (start = 0 && stop = line.length)) &&
            (!has given 'w' ||
              ((start = 0 || !subject.isWordAt (start - 1)) && !subject.isWordAt stop))
          let rec go : Nat → Nat → List (Nat × Nat)
            | 0, _ => []
            | n + 1, place =>
              let hits := (List.range (line.length + 1 - place)).findSome? fun i =>
                let ends := regexes.flatMap fun r =>
                  ((Regex.spots subject (r.size + 2 * line.length + 2) r { place := place + i }).map
                    (·.place)).filter (fits (place + i))
                if ends.isEmpty then none else some (place + i, ends.foldl Nat.max 0)
              match hits with
              | some (start, stop) =>
                (start, stop) :: go n (if stop = start then stop + 1 else stop)
              | none => []
          go (line.length + 1) 0
        let limit := (value? given 'm').bind String.toNat?
        let names := if names.isEmpty then ["-"] else names
        let named := (1 < names.length || has given 'H') && !has given 'h'
        let step (state : Effect × Bool) (name : String) : Effect × Bool :=
          let (e, any) := state
          match call.openDash? name with
          | .error fault =>
            let complaint := call.complaint (name ++ ": " ++ fault.words) 2
            (e.next (if has given 's' then { complaint with outputs := [] } else complaint), any)
          | .ok input =>
            let shownName := if name = "-" then "(standard input)" else name
            let front := if named then shownName ++ ":" else ""
            let all := numbered (lines input.text)
            let hits := all.filter fun (_, line) => (found line).isEmpty = has given 'v'
            let hits := match limit with
              | some n => hits.take n
              | none => hits
            let number (n : Nat) : String := if has given 'n' then toString n ++ ":" else ""
            let text : String :=
              if has given 'q' then ""
              else if has given 'l' then (if hits.isEmpty then "" else shownName ++ "\n")
              else if has given 'L' then (if hits.isEmpty then shownName ++ "\n" else "")
              else if has given 'c' then front ++ toString hits.length ++ "\n"
              else if has given 'o' then
                String.join (hits.flatMap fun (n, line) =>
                  (found line).filterMap fun (start, stop) =>
                    if start = stop then none
                    else some (front ++ number n ++
                      String.ofList ((line.drop start).take (stop - start)) ++ "\n"))
              else
                String.join (hits.map fun (n, line) =>
                  front ++ number n ++ String.ofList line ++ "\n")
            let endless := input.endless && !(has given 'q' && !hits.isEmpty)
            ({ e.print text with endless := e.endless || endless }, any || !hits.isEmpty)
        let (effect, any) := names.foldl step ({}, false)
        let status := if any && has given 'q' then 0
          else if effect.status ≠ 0 then effect.status
          else if any then 0 else 1
        { effect with status, left := call.leftBy names }

end PodMesh.Host.Program
