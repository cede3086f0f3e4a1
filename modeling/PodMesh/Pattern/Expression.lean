import PodMesh.Text.CharSet

/-!
# Regular expressions

Expressions and where they match. An expression leads from places in a text to the places
behind its matches; a place is the number of characters before it. The image of a list of
places is computed by recursion on the expression, so a search costs no more than the
size of the expression times the square of the length of the text.

The functions that put expressions together keep them plain: parts that follow one
another are in a row, and so are alternatives; adjacent characters are one text, and
alternatives of one character each are a set.
-/

namespace PodMesh.Pattern

open Text (CharSet)

/-- What must hold at a place, whatever matches there. -/
inductive Assertion where
  | textStart
  | textEnd
  | lineStart
  | lineEnd
  /-- Lines that may also end with a carriage return, or with one and a newline. -/
  | returnLineStart
  | returnLineEnd
  | wordBoundary
  | noWordBoundary
  | wordStart
  | wordEnd
  | wordStartHalf
  | wordEndHalf
  deriving DecidableEq, Repr

/-- A regular expression. An assertion about words brings along what a word is made of. -/
inductive Expression where
  | empty
  /-- These characters, of which there is at least one. -/
  | text (chars : List Char)
  | one (set : CharSet)
  | look (assertion : Assertion) (word : CharSet)
  /-- At least `min` and, if there is a `max`, at most that many times; as few times as possible
  where it is reluctant, which makes no difference to whether something matches. -/
  | times (a : Expression) (min : Nat) (max : Option Nat) (reluctant : Bool)
  /-- A group that is numbered. -/
  | group (index : Nat) (a : Expression)
  | seq (a b : Expression)
  | alt (a b : Expression)
  deriving DecidableEq, Repr

namespace Assertion

/-- Does an assertion hold at a place of a text? -/
def holds (a : Assertion) (word : CharSet) (text : Array Char) (place : Nat) : Bool :=
  let before := if place = 0 then none else text[place - 1]?
  let after := text[place]?
  let wordBefore := before.any word.mem
  let wordAfter := after.any word.mem
  match a with
  | textStart => before.isNone
  | textEnd => after.isNone
  | lineStart => before.all (· = '\n')
  | lineEnd => after.all (· = '\n')
  | returnLineStart => before.all fun c => c = '\n' || (c = '\r' && after ≠ some '\n')
  | returnLineEnd => after.all fun c => c = '\r' || (c = '\n' && before ≠ some '\r')
  | wordBoundary => wordBefore != wordAfter
  | noWordBoundary => wordBefore == wordAfter
  | wordStart => !wordBefore && wordAfter
  | wordEnd => wordBefore && !wordAfter
  | wordStartHalf => !wordBefore
  | wordEndHalf => !wordAfter

end Assertion

/-! ## Matching -/

/-- Both lists of places, without repetitions between them. -/
def merge (a b : List Nat) : List Nat := a ++ b.filter (· ∉ a)

/-- The image of places under a number of steps. It stops early where nothing changes any more. -/
def after (step : List Nat → List Nat) : Nat → List Nat → List Nat
  | 0, places => places
  | n + 1, places =>
    let next := step places
    if next = places then places else after step n next

/-- Places together with their images under up to so many steps. It stops early where nothing is
added any more. -/
def within (step : List Nat → List Nat) : Nat → List Nat → List Nat
  | 0, places => places
  | n + 1, places =>
    let new := (step places).filter (· ∉ places)
    if new.isEmpty then places else within step n (places ++ new)

/-- The places behind a text, at those places where it stands. -/
def behind (chars : List Char) (text : Array Char) (places : List Nat) : List Nat :=
  chars.foldl
    (fun places c => (places.filter fun i => text[i]? = some c).map (· + 1)) places

namespace Expression

/-- The places behind the matches of an expression that start at one of some places. -/
def image (text : Array Char) : Expression → List Nat → List Nat
  | .empty, places => places
  | .text chars, places => behind chars text places
  | .one set, places => (places.filter fun i => text[i]?.any set.mem).map (· + 1)
  | .look assertion word, places => places.filter (assertion.holds word text)
  | .times a min max _, places =>
    let least := after (a.image text) min places
    let more := match max with
      | some max => Nat.min (max - min) (text.size + 1)
      | none => text.size + 1
    within (a.image text) more least
  | .group _ a, places => a.image text places
  | .seq a b, places => b.image text (a.image text places)
  | .alt a b, places => merge (a.image text places) (b.image text places)

/-- Does an expression match anywhere in a text? -/
def matchesIn (e : Expression) (text : Array Char) : Bool :=
  !(e.image text (List.range (text.size + 1))).isEmpty

/-! ## Lengths and anchors -/

/-- The number of bytes of some characters. -/
def byteSize (chars : List Char) : Nat := (chars.map Char.utf8Size).foldl (· + ·) 0

/-- The least number of bytes that an expression matches; none if it matches nothing. -/
def minLength : Expression → Option Nat
  | .empty | .look .. => some 0
  | .text chars => some (byteSize chars)
  | .one set => set.runs.head?.map fun run => (Char.ofNat run.1).utf8Size
  | .times a min _ _ => a.minLength.map (· * min)
  | .group _ a => a.minLength
  | .seq a b => do return (← a.minLength) + (← b.minLength)
  | .alt a b => do return Nat.min (← a.minLength) (← b.minLength)

/-- The greatest number of bytes that an expression matches; none if there is no bound, or if it
matches nothing. -/
def maxLength : Expression → Option Nat
  | .empty | .look .. => some 0
  | .text chars => some (byteSize chars)
  | .one set => set.runs.getLast?.map fun run => (Char.ofNat run.2).utf8Size
  | .times a _ max _ => do return (← a.maxLength) * (← max)
  | .group _ a => a.maxLength
  | .seq a b => do return (← a.maxLength) + (← b.maxLength)
  | .alt a b => do return Nat.max (← a.maxLength) (← b.maxLength)

/-- Does an expression only match where a text starts, as its first parts show? -/
def startsText : Expression → Bool
  | .look .textStart _ => true
  | .empty | .text _ | .one _ | .look .. => false
  | .times a min _ _ => min != 0 && a.startsText
  | .group _ a => a.startsText
  | .seq a b => a.startsText || (a.maxLength = some 0 && b.startsText)
  | .alt a b => a.startsText && b.startsText

/-- Does an expression only match where a text ends, as its last parts show? -/
def endsText : Expression → Bool
  | .look .textEnd _ => true
  | .empty | .text _ | .one _ | .look .. => false
  | .times a min _ _ => min != 0 && a.endsText
  | .group _ a => a.endsText
  | .seq a b => b.endsText || (b.maxLength = some 0 && a.endsText)
  | .alt a b => a.endsText && b.endsText

/-! ## Putting expressions together -/

/-- A character of a set; the empty set matches nothing. -/
def ofSet (set : CharSet) : Expression :=
  match set.single? with
  | some c => .text [c]
  | none => .one set

/-- One expression and then another, whose parts are in a row already. -/
def followedBy : Expression → Expression → Expression
  | .empty, e => e
  | .seq a b, e => a.followedBy (b.followedBy e)
  | a, .empty => a
  | .text cs, .text ds => .text (cs ++ ds)
  | .text cs, .seq (.text ds) e => .seq (.text (cs ++ ds)) e
  | a, e => .seq a e

/-- Expressions one after the other. -/
def concat (es : List Expression) : Expression := es.foldr followedBy .empty

/-- The parts of an expression that follow one another. -/
def parts : Expression → List Expression
  | .seq a b => a.parts ++ b.parts
  | e => [e]

/-- The alternatives of an expression. -/
def branches : Expression → List Expression
  | .alt a b => a.branches ++ b.branches
  | e => [e]

/-- The text that is all that an expression matches. -/
def text? : Expression → Option (List Char)
  | .text chars => some chars
  | _ => none

/-- The character that is all that an expression matches. -/
def char? : Expression → Option Char
  | .text [c] => some c
  | _ => none

/-- The set of the characters that an expression matches, if it is one set. -/
def set? : Expression → Option CharSet
  | .one set => some set
  | _ => none

/-- Any of some expressions, none of which has alternatives. -/
def anyOf : List Expression → Expression
  | [] => .one .empty
  | [e] => e
  | e :: es =>
    match (e :: es).mapM char?, (e :: es).mapM set? with
    | some cs, _ => ofSet (.ofList cs)
    | none, some sets => ofSet (.unions sets)
    | none, none => .alt e (chain es)
where
  chain : List Expression → Expression
    | [] => .one .empty
    | [e] => e
    | e :: es => .alt e (chain es)

/-- What two lists have in common at their starts. -/
def commonStart : List Expression → List Expression → List Expression
  | a :: as, b :: bs => if a = b then a :: commonStart as bs else []
  | _, _ => []

/-- The parts that all of some expressions start with, where each of them has several parts. -/
def sharedParts : List Expression → List Expression
  | [] => []
  | e :: es =>
    if (e :: es).all (1 < ·.parts.length) then
      es.foldl (fun shared e => commonStart shared e.parts) e.parts
    else []

/-- Any of some expressions. What they all start with is matched first. -/
def alternation (es : List Expression) : Expression :=
  let es := es.flatMap branches
  match anyOf es with
  | .alt a b =>
    match sharedParts es with
    | [] => .alt a b
    | shared =>
      let rests := es.map fun e => concat (e.parts.drop shared.length)
      concat (shared ++ [anyOf (rests.flatMap branches)])
  | e => e

/-- An expression a number of times. Where it is always empty, once is as good as many times. -/
def repeated (a : Expression) (min : Nat) (max : Option Nat) (reluctant : Bool) : Expression :=
  let (min, max) :=
    if a.maxLength = some 0 then (Nat.min min 1, some (Nat.min (max.getD 1) 1)) else (min, max)
  if max = some 0 then .empty
  else if min = 1 && max = some 1 then a
  else .times a min max reluctant

end Expression

end PodMesh.Pattern
