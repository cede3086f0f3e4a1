import PodMesh.Text.Line

/-!
# Regular expressions of programs

The regular expressions that programs search lines with. There are two notations: in the
extended one the signs for groups, alternatives and repetitions stand alone, in the basic
one behind a backslash. A match starts as early as possible and is as long as possible
from there.
-/

namespace PodMesh.Host

/-- A regular expression over single characters. -/
inductive Regex where
  | empty
  | any
  | set (negated : Bool) (ranges : List (Char × Char))
  | lineStart
  | lineEnd
  | wordEdge (inside : Bool)
  | seq (a b : Regex)
  | alt (a b : Regex)
  | times (a : Regex) (min : Nat) (max : Option Nat)
  | group (index : Nat) (a : Regex)
  /-- What a group matched, once more. -/
  | again (index : Nat)
  deriving Repr

namespace Regex

/-! ## Matching -/

/-- Where a match has come to, and what its groups matched last: their numbers, starts and ends. -/
structure Spot where
  place : Nat
  groups : List (Nat × Nat × Nat) := []
  deriving DecidableEq, Repr

namespace Spot

def group? (s : Spot) (index : Nat) : Option (Nat × Nat) :=
  (s.groups.find? (·.1 = index)).map (·.2)

end Spot

/-- A text that is searched, in which case counts or not. -/
structure Subject where
  text : Array Char
  anyCase : Bool := false

namespace Subject

def same (s : Subject) (a b : Char) : Bool :=
  a = b || (s.anyCase && a.toLower = b.toLower)

def inRanges (s : Subject) (ranges : List (Char × Char)) (c : Char) : Bool :=
  ranges.any fun (low, high) =>
    (low ≤ c && c ≤ high) ||
      (s.anyCase &&
        ((low ≤ c.toLower && c.toLower ≤ high) || (low ≤ c.toUpper && c.toUpper ≤ high)))

def slice (s : Subject) (start stop : Nat) : List Char :=
  (s.text.extract start stop).toList

def isWordAt (s : Subject) (place : Nat) : Bool :=
  s.text[place]?.any fun c => c.isAlphanum || c = '_'

end Subject

/-- Every spot behind a match. Each repetition and each part of an expression takes a step. -/
def spots (s : Subject) : Nat → Regex → Spot → List Spot
  | 0, _, _ => []
  | steps + 1, regex, spot =>
    match regex with
    | empty => [spot]
    | any => if spot.place < s.text.size then [{ spot with place := spot.place + 1 }] else []
    | set negated ranges =>
      if s.text[spot.place]?.any fun c => s.inRanges ranges c != negated then
        [{ spot with place := spot.place + 1 }]
      else []
    | lineStart => if spot.place = 0 then [spot] else []
    | lineEnd => if spot.place = s.text.size then [spot] else []
    | wordEdge inside =>
      let before := spot.place ≠ 0 && s.isWordAt (spot.place - 1)
      if (before != s.isWordAt spot.place) != inside then [spot] else []
    | seq a b => ((spots s steps a spot).flatMap (spots s steps b)).eraseDups
    | alt a b => (spots s steps a spot ++ spots s steps b spot).eraseDups
    | times a min max =>
      if max = some 0 then [spot]
      else
        let once := (spots s steps a spot).filter fun next => min ≠ 0 || next.place ≠ spot.place
        let more := once.flatMap (spots s steps (times a (min - 1) (max.map (· - 1))))
        (more ++ if min = 0 then [spot] else []).eraseDups
    | group index a =>
      (spots s steps a spot).map fun next =>
        { next with
          groups := (index, spot.place, next.place) :: next.groups.filter (·.1 ≠ index) }
    | again index =>
      match spot.group? index with
      | none => []
      | some (start, stop) =>
        let wanted := s.slice start stop
        let found := s.slice spot.place (spot.place + wanted.length)
        if found.length = wanted.length && (found.zip wanted).all fun (a, b) => s.same a b then
          [{ spot with place := spot.place + wanted.length }]
        else []

/-- The number of parts of an expression. -/
def size : Regex → Nat
  | seq a b | alt a b => a.size + b.size + 1
  | times a .. | group _ a => a.size + 1
  | _ => 1

/-- The longest match from a place on. -/
def matchAt? (regex : Regex) (s : Subject) (place : Nat) : Option Spot :=
  let found := spots s (regex.size + 2 * s.text.size + 2) regex { place }
  found.foldl (fun best next => match best with
    | some b => if b.place < next.place then some next else best
    | none => some next) none

/-- The first match from a place on: its start and the spot behind it. -/
def search? (regex : Regex) (s : Subject) (place : Nat) : Option (Nat × Spot) :=
  (List.range (s.text.size + 1 - place)).findSome? fun i =>
    (regex.matchAt? s (place + i)).map fun spot => (place + i, spot)

/-! ## Reading -/

/-- The named sets between colons. -/
def namedRanges? (name : List Char) : Option (List (Char × Char)) :=
  [("alnum", [('0', '9'), ('A', 'Z'), ('a', 'z')]), ("alpha", [('A', 'Z'), ('a', 'z')]),
    ("blank", [(' ', ' '), ('\t', '\t')]), ("cntrl", [('\x00', '\x1f'), ('\x7f', '\x7f')]),
    ("digit", [('0', '9')]), ("graph", [('!', '~')]), ("lower", [('a', 'z')]),
    ("print", [(' ', '~')]),
    ("punct", [('!', '/'), (':', '@'), ('[', '\x60'), ('\x7b', '~')]),
    ("space", [('\t', '\r'), (' ', ' ')]), ("upper", [('A', 'Z')]),
    ("xdigit", [('0', '9'), ('A', 'F'), ('a', 'f')])].lookup (String.ofList name)

/-- The items of a bracket up to the closing one. Every step takes a character. -/
def bracketItems : Nat → Bool → List Char → Option (List (Char × Char) × List Char)
  | 0, _, _ | _, _, [] => none
  | steps + 1, first, src =>
    let more (item : List (Char × Char)) (rest : List Char) :
        Option (List (Char × Char) × List Char) :=
      (bracketItems steps false rest).map fun (items, rest) => (item ++ items, rest)
    match src with
    | ']' :: rest => if first then more [(']', ']')] rest else some ([], rest)
    | '[' :: ':' :: rest =>
      let name := rest.takeWhile (· ≠ ':')
      match namedRanges? name, rest.drop name.length with
      | some ranges, ':' :: ']' :: rest => more ranges rest
      | _, _ => none
    | low :: '-' :: high :: rest =>
      if high = ']' then more [(low, low)] ('-' :: high :: rest) else more [(low, high)] rest
    | c :: rest => more [(c, c)] rest
    | [] => none

/-- A bracket after the opening one. -/
def bracket? (src : List Char) : Option (Regex × List Char) :=
  let (negated, src) := match src with
    | '^' :: rest => (true, rest)
    | src => (false, src)
  (bracketItems (src.length + 1) true src).map fun (ranges, rest) => (.set negated ranges, rest)

/-- A sign of the notation, or a character that stands for itself. -/
inductive Sign where
  | open_
  | close
  | bar
  | star
  | plus
  | question
  | brace
  | plain (regex : Regex)

/-- The set of one character. -/
def char (c : Char) : Regex := .set false [(c, c)]

/-- The next sign. What is a sign alone in one notation is one behind a backslash in the other. -/
def sign? (extended : Bool) (first : Bool) : List Char → Option (Sign × List Char)
  | [] => none
  | '\\' :: c :: rest =>
    let word := [('0', '9'), ('A', 'Z'), ('a', 'z'), ('_', '_')]
    let blank := [('\t', '\r'), (' ', ' ')]
    match c with
    | 'w' => some (.plain (.set false word), rest)
    | 'W' => some (.plain (.set true word), rest)
    | 's' => some (.plain (.set false blank), rest)
    | 'S' => some (.plain (.set true blank), rest)
    | 'b' => some (.plain (.wordEdge false), rest)
    | 'B' => some (.plain (.wordEdge true), rest)
    | 'n' => some (.plain (char '\n'), rest)
    | 't' => some (.plain (char '\t'), rest)
    | c =>
      if c.isDigit && c ≠ '0' then some (.plain (.again (c.toNat - '0'.toNat)), rest)
      else if extended then some (.plain (char c), rest)
      else
        match c with
        | '(' => some (.open_, rest)
        | ')' => some (.close, rest)
        | '|' => some (.bar, rest)
        | '+' => some (.plus, rest)
        | '?' => some (.question, rest)
        | '\x7b' => some (.brace, rest)
        | c => some (.plain (char c), rest)
  | '.' :: rest => some (.plain .any, rest)
  | '[' :: rest => (bracket? rest).map fun (regex, rest) => (.plain regex, rest)
  | '*' :: rest => if first then some (.plain (char '*'), rest) else some (.star, rest)
  | '^' :: rest => some (.plain (if extended || first then .lineStart else char '^'), rest)
  | '$' :: rest =>
    let last := match rest with
      | [] | '\\' :: ')' :: _ | '\\' :: '|' :: _ => true
      | _ => extended
    some (.plain (if last then .lineEnd else char '$'), rest)
  | c :: rest =>
    if extended then
      match c with
      | '(' => some (.open_, rest)
      | ')' => some (.close, rest)
      | '|' => some (.bar, rest)
      | '+' => some (.plus, rest)
      | '?' => some (.question, rest)
      | '\x7b' => some (.brace, rest)
      | c => some (.plain (char c), rest)
    else some (.plain (char c), rest)

/-- A number of repetitions, after the opening brace. -/
def count? (extended : Bool) (src : List Char) : Option ((Nat × Option Nat) × List Char) :=
  let number (cs : List Char) : Option Nat × List Char :=
    let ds := cs.takeWhile Char.isDigit
    (if ds.isEmpty then none
      else some (ds.foldl (fun n c => n * 10 + (c.toNat - '0'.toNat)) 0), cs.drop ds.length)
  let (min, rest) := number src
  let (max, rest) := match rest with
    | ',' :: rest =>
      let (max, rest) := number rest
      (max, rest)
    | rest => (min, rest)
  match rest, extended with
  | '\\' :: '\x7d' :: rest, false | '\x7d' :: rest, true => some ((min.getD 0, max), rest)
  | _, _ => none

/-- Reads up to the end of a group, or of everything: the expression, the number of groups so far
and what follows. Every step takes a character. -/
def readBranches (extended : Bool) : Nat → Nat → Option Regex → Regex → Option Regex → List Char →
    Option (Regex × Nat × List Char)
  | 0, _, _, _, _, _ => none
  | steps + 1, groups, before, row, last, src =>
    let row' : Regex := match last with
      | some item => .seq row item
      | none => row
    let whole : Regex := match before with
      | some before => .alt before row'
      | none => row'
    let first := last.isNone && row matches .empty
    let add (item : Regex) (groups : Nat) (rest : List Char) : Option (Regex × Nat × List Char) :=
      readBranches extended steps groups before row' (some item) rest
    let again (min : Nat) (max : Option Nat) (rest : List Char) :
        Option (Regex × Nat × List Char) :=
      match last with
      | some item => readBranches extended steps groups before row (some (.times item min max)) rest
      | none => none
    match src with
    | [] => some (whole, groups, [])
    | src =>
      match sign? extended first src with
      | none => none
      | some (.open_, rest) =>
        match readBranches extended steps (groups + 1) none .empty none rest with
        | some (inner, inside, rest) => add (.group (groups + 1) inner) inside rest
        | none => none
      | some (.close, rest) => some (whole, groups, rest)
      | some (.bar, rest) => readBranches extended steps groups (some whole) .empty none rest
      | some (.star, rest) => again 0 none rest
      | some (.plus, rest) => again 1 none rest
      | some (.question, rest) => again 0 (some 1) rest
      | some (.brace, rest) =>
        match count? extended rest with
        | some ((min, max), rest) => again min max rest
        | none => none
      | some (.plain item, rest) => add item groups rest

/-- Reads an expression. -/
def read? (extended : Bool) (text : List Char) : Option Regex :=
  match readBranches extended (text.length + 1) 0 none .empty none text with
  | some (regex, _, []) => some regex
  | _ => none

/-- The expression of a text that stands for itself. -/
def literal (text : List Char) : Regex := text.foldl (fun r c => .seq r (char c)) .empty

end Regex

end PodMesh.Host
