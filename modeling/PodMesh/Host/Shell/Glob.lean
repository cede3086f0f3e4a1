import PodMesh.Host.Effect
import PodMesh.Host.Matching

/-!
# Patterns of the shell language

Patterns that whole texts are compared with: a star stands for any text, a question mark
for any character, brackets for any character of a set. What is quoted stands for itself.
A pattern with slashes stands for the names of files, step by step.
-/

namespace PodMesh.Host.Shell

/-- A character of an expanded word, and whether it is quoted. -/
structure Mark where
  char : Char
  quoted : Bool
  deriving DecidableEq, Repr

/-- Marks of a text that are all quoted, or all not. -/
def marks (quoted : Bool) (chars : List Char) : List Mark := chars.map (⟨·, quoted⟩)

namespace Glob

/-- Is a mark an unquoted sign? -/
def isSign (m : Mark) (c : Char) : Bool := m.char = c && !m.quoted

/-- The items of a set up to the closing bracket, which stands for itself in front: characters,
ranges and named sets. Every step takes a mark. -/
def items : Nat → Bool → List Mark → Option (List (Char × Char) × List Mark)
  | 0, _, _ | _, _, [] => none
  | steps + 1, first, m :: rest =>
    let more (item : List (Char × Char)) (rest : List Mark) :
        Option (List (Char × Char) × List Mark) :=
      (items steps false rest).map fun (ranges, rest) => (item ++ ranges, rest)
    if isSign m ']' && !first then some ([], rest)
    else
      let name := ((rest.drop 1).takeWhile (·.char ≠ ':')).map (·.char)
      let named := if isSign m '[' && rest.head?.any (isSign · ':') then
          Regex.namedRanges? name
        else none
      match named, rest.drop (name.length + 1) with
      | some ranges, colon :: close :: rest =>
        if colon.char = ':' && isSign close ']' then more ranges rest else none
      | _, _ =>
        match rest with
        | dash :: last :: rest' =>
          if isSign dash '-' && !isSign last ']' then more [(m.char, last.char)] rest'
          else more [(m.char, m.char)] rest
        | _ => more [(m.char, m.char)] rest

/-- The set in brackets as a test, after the opening one, and what follows the closing one. -/
def set? (marks : List Mark) : Option ((Char → Bool) × List Mark) :=
  let (negated, marks) := match marks with
    | m :: rest => if isSign m '!' || isSign m '^' then (true, rest) else (false, marks)
    | [] => (false, [])
  (items (marks.length + 1) true marks).map fun (ranges, rest) =>
    (fun c => (ranges.any fun (low, high) => low ≤ c && c ≤ high) != negated, rest)

/-- Does a text match a pattern? Every step takes a mark or a character, so both lengths together
suffice for `steps`. -/
def covers : Nat → List Mark → List Char → Bool
  | 0, _, _ => false
  | _, [], text => text.isEmpty
  | steps + 1, m :: rest, text =>
    if isSign m '*' then
      covers steps rest text ||
        match text with
        | _ :: more => covers steps (m :: rest) more
        | [] => false
    else
      match text with
      | [] => false
      | c :: more =>
        if isSign m '?' then covers steps rest more
        else
          match if isSign m '[' then set? rest else none with
          | some (test, rest) => test c && covers steps rest more
          | none => m.char = c && covers steps rest more

end Glob

/-- Does a text match a pattern? -/
def globCovers (pattern : List Mark) (text : List Char) : Bool :=
  Glob.covers (pattern.length + text.length + 1) pattern text

/-! ## Names of files -/

/-- Is any mark a sign of a pattern? -/
def isPattern (marks : List Mark) : Bool :=
  marks.any fun m => !m.quoted && m.char ∈ ['*', '?', '[']

/-- The names that steps of patterns stand for, in some folder, after the front of the names. -/
def namesIn (files : Files) (front : String) : List (List Mark) → List String
  | [] => [front]
  | step :: steps =>
    let slash := if steps.isEmpty then "" else "/"
    let plain := String.ofList (step.map Mark.char)
    if !isPattern step then
      let name := front ++ plain
      if steps.isEmpty then
        if plain.isEmpty || (files.find (Call.fileName name)).isOk then [name] else []
      else namesIn files (name ++ slash) steps
    else
      match files.find (Call.fileName (if front.isEmpty then "." else front)) with
      | .ok (place, .folder) =>
        let all := (".", .folder) :: ("..", .folder) ::
          (files.entries place).map fun (n, node) => (Text.Octets.ofText n, node)
        let hidden := step.head?.any (Glob.isSign · '.')
        let found := all.filter fun (n, node) =>
          (hidden || n.toList.head? ≠ some '.') && globCovers step n.toList &&
            (steps.isEmpty || node = .folder)
        found.flatMap fun (n, _) => namesIn files (front ++ n ++ slash) steps
      | _ => []

/-- Marks between slashes. -/
def steps (marks : List Mark) : List (List Mark) :=
  marks.foldr (fun m steps => match steps with
    | step :: rest => if m.char = '/' then [] :: step :: rest else (m :: step) :: rest
    | [] => [[m]]) [[]]

/-- The names of files that a pattern stands for, in order. -/
def matchingNames (files : Files) (marks : List Mark) : List String :=
  let all := match steps marks with
    | [] :: rest => if marks.isEmpty then [] else namesIn files "/" rest
    | steps => namesIn files "" steps
  all.mergeSort fun a b => a ≤ b

end PodMesh.Host.Shell
