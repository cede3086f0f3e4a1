import PodMesh.Pattern.Class
import PodMesh.Pattern.Footprint

/-!
# Written patterns

How a regular expression is written, and how a written one is read. Characters stand for
themselves but for the signs of the notation, which a backslash makes stand for
themselves. Groups can set flags for what follows in them.

A fault is found before anything is matched, so a pattern that is read matches or does
not match, and never fails.
-/

namespace PodMesh.Pattern

open Text (CharSet)

/-! ## Repetitions -/

/-- A decimal number, with blanks around it. -/
def readNumber (flags : Flags) (src : List Char) : Option Nat × List Char :=
  let (digits, rest) := flags.takeWhile Char.isDigit (src.dropWhile Text.isBlank)
  (Address.ofBase? 10 digits, flags.skip (rest.dropWhile Text.isBlank))

/-- The least and greatest number of repetitions, after the opening brace. -/
def readCount (flags : Flags) (src : List Char) : Except Fault ((Nat × Option Nat) × List Char) :=
  let valid (n : Option Nat) : Except Fault Nat :=
    match n with
    | some n => if n < Nat.pow 2 32 then .ok n else .error .badCount
    | none => .error .badCount
  let (min, rest) := readNumber flags (flags.skip src)
  match rest with
  | '\x7d' :: rest => do
    let min ← valid min
    return ((min, some min), rest)
  | ',' :: rest =>
    match flags.skip rest with
    | '\x7d' :: rest => do return ((← valid min, none), rest)
    | rest => do
      let min ← valid min
      let (max, rest) := readNumber flags rest
      let max ← valid max
      match rest with
      | '\x7d' :: rest => if max < min then throw .badCount else return ((min, some max), rest)
      | _ => throw .badCount
  | _ => .error .badCount

/-! ## Flags -/

/-- One change of flags. -/
def Flags.change (flags : Flags) (value : Bool) : Char → Option Flags
  | 'i' => some { flags with anyCase := value }
  | 'm' => some { flags with multiLine := value }
  | 's' => some { flags with dotAll := value }
  | 'U' => some { flags with reluctant := value }
  | 'u' => some { flags with unicode := value }
  | 'R' => some { flags with returns := value }
  | 'x' => some { flags with verbose := value }
  | _ => none

/-- The changes of flags up to a colon or a closing parenthesis, which is left. No flag is named
twice, and the sign that turns flags off stands once and before a flag. -/
def readFlags : Flags → Bool → List Char → List Char → Except Fault (Flags × List Char)
  | _, _, _, [] => .error .badFlags
  | flags, value, seen, c :: rest =>
    if c = ':' || c = ')' then
      if seen.head? = some '-' then .error .badFlags else .ok (flags, c :: rest)
    else if c ∈ seen then .error .badFlags
    else if c = '-' then readFlags flags false (c :: seen) rest
    else
      match flags.change value c with
      | some flags => readFlags flags value (c :: seen) rest
      | none => .error .badFlags

/-! ## Groups -/

/-- The name of a group, up to the bracket that closes it: a letter or an underscore, and then also
numbers, dots and brackets. -/
def readName (src : List Char) : Except Fault (List Char × List Char) :=
  let name := src.takeWhile (· ≠ '>')
  let isStart (c : Char) : Bool := c = '_' || Text.Property.alphabetic.mem c
  let isPart (c : Char) : Bool :=
    isStart c || c ∈ ['.', '[', ']'] || (Text.Category.charsOf [.nd, .nl, .no]).mem c
  match name, src.dropWhile (· ≠ '>') with
  | first :: others, '>' :: rest =>
    if isStart first && others.all isPart then .ok (name, rest) else .error .badName
  | _, _ => .error .badName

/-- What opens with a parenthesis: a change of flags, or a group, with its flags and its name, that
is numbered or not. -/
inductive Opening where
  | change (flags : Flags)
  | plain (flags : Flags)
  | numbered (name : Option (List Char))

/-- Reads what stands behind an opening parenthesis, up to the first item of the group. -/
def readOpening (flags : Flags) (src : List Char) : Except Fault (Opening × List Char) :=
  match flags.skip src with
  | '?' :: '=' :: _ | '?' :: '!' :: _ | '?' :: '<' :: '=' :: _ | '?' :: '<' :: '!' :: _ =>
    .error .lookAround
  | '?' :: 'P' :: '<' :: rest | '?' :: '<' :: rest => do
    let (name, rest) ← readName rest
    return (.numbered (some name), rest)
  | '?' :: start => do
    let (inner, rest) ← readFlags flags true [] start
    match rest with
    | ')' :: after =>
      if start = rest then throw .nothingToRepeat
      return (.change inner, after)
    | _ => return (.plain inner, rest.drop 1)
  | src => .ok (.numbered none, src)

/-! ## Drafts -/

/-- An expression as it was written, and how deep its notation nests. -/
structure Piece where
  expression : Expression
  depth : Nat := 0

/-- The pieces of a branch, of which changes of flags are none, and how deep they nest together. -/
def Piece.row (items : List (Option Piece)) : Piece :=
  let pieces := items.filterMap id
  let depth := pieces.foldl (fun n p => Nat.max n p.depth) 0
  ⟨.concat (pieces.map Piece.expression), if 1 < items.length then depth + 1 else depth⟩

/-- Branches, and how deep they nest together. -/
def Piece.choice : List Piece → Piece
  | [piece] => piece
  | pieces =>
    ⟨.alternation (pieces.map Piece.expression),
      pieces.foldl (fun n p => Nat.max n p.depth) 0 + 1⟩

/-- A part of a pattern as it is read: the items of the branch under way, the last one first, and
the branches before it. A change of flags is an item that cannot be repeated. -/
structure Draft where
  items : List (Option Piece) := []
  branches : List Piece := []

namespace Draft

def add (d : Draft) (e : Expression) (depth : Nat) : Draft :=
  { d with items := some ⟨e, depth⟩ :: d.items }

def nextBranch (d : Draft) : Draft := ⟨[], .row d.items.reverse :: d.branches⟩

def finish (d : Draft) : Piece := .choice (.row d.items.reverse :: d.branches).reverse

/-- Repeats the last item. -/
def repeatLast (d : Draft) (min : Nat) (max : Option Nat) (reluctant : Bool) :
    Except Fault Draft :=
  match d.items with
  | some piece :: before =>
    .ok { d with items := some ⟨piece.expression.repeated min max reluctant, piece.depth + 1⟩
            :: before }
  | _ => .error .nothingToRepeat

end Draft

/-! ## Patterns -/

/-- The assertion of a sign under some flags. -/
def Flags.lineStart (flags : Flags) : Assertion :=
  if !flags.multiLine then .textStart else if flags.returns then .returnLineStart else .lineStart

def Flags.lineEnd (flags : Flags) : Assertion :=
  if !flags.multiLine then .textEnd else if flags.returns then .returnLineEnd else .lineEnd

/-- The set of the dot. -/
def Flags.dot (flags : Flags) : Except Fault CharSet :=
  if !flags.unicode then .error .notText
  else if flags.dotAll then .ok .all
  else if flags.returns then .ok (CharSet.ofList ['\n', '\r']).complement
  else .ok (CharSet.one '\n').complement

/-- The groups so far: how many are numbered, and the names of those that have one. -/
structure Groups where
  count : Nat := 0
  names : List (List Char) := []

/-- A group that was read, the groups so far, and what follows it. -/
structure Group where
  piece : Piece
  groups : Groups
  rest : List Char

/-- The rest of a group, or of the whole pattern where `inside` is false, after a draft of its
start. Every item takes a character, so the length of the pattern suffices for `steps`. -/
def readGroup : Nat → Bool → Flags → Groups → Draft → List Char → Except Fault Group
  | 0, _, _, _, _, _ => .error .tooDeep
  | steps + 1, inside, flags, groups, draft, src =>
    let go (draft : Draft) (rest : List Char) : Except Fault Group :=
      readGroup steps inside flags groups draft rest
    let again (min : Nat) (max : Option Nat) (rest : List Char) : Except Fault Group := do
      match rest with
      | '?' :: rest => go (← draft.repeatLast min max !flags.reluctant) rest
      | rest => go (← draft.repeatLast min max flags.reluctant) rest
    match flags.skip src with
    | [] => if inside then .error .unclosedGroup else .ok ⟨draft.finish, groups, []⟩
    | ')' :: rest => if inside then .ok ⟨draft.finish, groups, rest⟩ else .error .unopenedGroup
    | '|' :: rest => go draft.nextBranch rest
    | '?' :: rest => again 0 (some 1) rest
    | '*' :: rest => again 0 none rest
    | '+' :: rest => again 1 none rest
    | '\x7b' :: rest => do
      if (draft.items.head?.join).isNone then throw .nothingToRepeat
      let ((min, max), rest) ← readCount flags rest
      again min max (flags.skip rest)
    | '[' :: rest => do
      let (written, rest) ← readClass flags (rest.length + 1) rest
      go (draft.add (.ofSet written.set) written.depth) rest
    | '\\' :: rest => do
      let (escape, rest) ← readEscape flags rest
      go (draft.add (escape.expression flags) 0) rest
    | '.' :: rest => do go (draft.add (.ofSet (← flags.dot)) 0) rest
    | '^' :: rest => go (draft.add (.look flags.lineStart .empty) 0) rest
    | '$' :: rest => go (draft.add (.look flags.lineEnd .empty) 0) rest
    | '(' :: rest => do
      match ← readOpening flags rest with
      | (.change flags, rest) =>
        readGroup steps inside flags groups { draft with items := none :: draft.items } rest
      | (.plain inner, rest) =>
        let group ← readGroup steps true inner groups {} rest
        readGroup steps inside flags group.groups
          (draft.add group.piece.expression (group.piece.depth + 1)) group.rest
      | (.numbered name, rest) =>
        if name.any (· ∈ groups.names) then throw .badName
        let index := groups.count + 1
        let group ← readGroup steps true flags ⟨index, name.toList ++ groups.names⟩ {} rest
        readGroup steps inside flags group.groups
          (draft.add (.group index group.piece.expression) (group.piece.depth + 1)) group.rest
    | c :: rest => go (draft.add (Escape.expression flags (.char c)) 0) rest

/-- How deep a pattern may nest. -/
def maxDepth : Nat := 250

end Pattern

/-- A pattern that texts can be searched for. -/
structure Pattern where
  expression : Pattern.Expression
  deriving DecidableEq, Repr

namespace Pattern

/-- Reads a pattern. -/
def read (s : String) : Except Fault Pattern := do
  let src := s.toList
  let whole ← readGroup (src.length + 1) false {} {} {} src
  if maxDepth < whole.piece.depth then throw .tooDeep
  if !whole.piece.expression.fits then throw .tooBig
  return ⟨whole.piece.expression⟩

/-- Does the pattern occur anywhere in a text? -/
def occursIn (p : Pattern) (s : String) : Bool := p.expression.matchesIn s.toList.toArray

end Pattern

end PodMesh
