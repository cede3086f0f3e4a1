import PodMesh.Pattern.Expression
import PodMesh.Text.Utf8.Ranges

/-!
# How much memory a pattern takes

A pattern is searched for by two automata over bytes, one that reads forwards and one that
reads backwards. Neither may take more than a fixed number of bytes of memory. Each state
takes some, each way out of a state with several ways takes more, and repetitions are
written out. So the footprint of a pattern is found by arithmetic, without building
anything.
-/

namespace PodMesh.Pattern

open Text (CharSet ByteRange)

/-- The bytes that a state takes. -/
def stateSize : Nat := 32

/-- The bytes that a state which reads one of several ranges takes more, for each of them. -/
def rangeSize : Nat := 8

/-- The bytes that a state which leads to several others takes more, for each of them. -/
def branchSize : Nat := 4

/-- The bytes that an automaton may take. -/
def maxFootprint : Nat := 10485760

/-- Which way an automaton reads. -/
inductive Direction where
  | forwards
  | backwards
  deriving DecidableEq, Repr

/-- What a part of an automaton takes. -/
structure Footprint where
  bytes : Nat
  /-- Does it end in a state that leads to several others? Then what follows takes a branch more. -/
  forks : Bool := false
  deriving DecidableEq, Repr

namespace Footprint

/-- A number of states in a row. -/
def states (n : Nat) : Footprint := ⟨n * stateSize, false⟩

/-- What it takes to go on behind a part. -/
def onward (a : Footprint) : Nat := if a.forks then branchSize else 0

/-- One part and then another. -/
def followedBy (a b : Footprint) : Footprint := ⟨a.bytes + a.onward + b.bytes, b.forks⟩

/-- What a part takes as one of several alternatives. -/
def asBranch (a : Footprint) : Nat := a.bytes + branchSize + a.onward

/-- A part so many times in a row. -/
def copies (a : Footprint) : Nat → Footprint
  | 0 => states 1
  | n + 1 => ⟨a.bytes + n * (a.bytes + a.onward), a.forks⟩

/-- A part at least so many times. It tells whether the part can be empty. -/
def atLeast (a : Footprint) (canBeEmpty : Bool) : Nat → Footprint
  | 0 =>
    if canBeEmpty then ⟨a.bytes + a.onward + 3 * stateSize + 4 * branchSize, false⟩
    else ⟨a.bytes + a.onward + stateSize + branchSize, true⟩
  | n + 1 => ⟨(a.copies (n + 1)).bytes + a.onward + stateSize + branchSize, true⟩

/-- A part at least `min` and at most that many times more. -/
def between (a : Footprint) (min more : Nat) : Footprint :=
  let least := a.copies min
  let optional := stateSize + 2 * branchSize + a.bytes + a.onward
  ⟨least.bytes + least.onward + stateSize + more * optional, false⟩

/-- A part or nothing. -/
def option (a : Footprint) : Footprint :=
  ⟨a.bytes + a.onward + 2 * stateSize + 2 * branchSize, false⟩

end Footprint

/-! ## Sets -/

/-- The rows of ranges, of those that start with a range, behind it. -/
def rowsAfter (range : ByteRange) (rows : List (List ByteRange)) : List (List ByteRange) :=
  rows.filterMap fun row => if row.head? = some range then row.tail? else none

/-- The ranges that rows start with. -/
def firstRanges (rows : List (List ByteRange)) : List ByteRange :=
  (rows.filterMap List.head?).eraseDups

/-- What is left of rows after each number of their first ranges: every state of the automaton that
reads them. -/
def restsOf : Nat → List (List ByteRange) → List (List (List ByteRange))
  | 0, _ => []
  | n + 1, rows =>
    if (firstRanges rows).isEmpty then []
    else rows :: (firstRanges rows).flatMap fun range => restsOf n (rowsAfter range rows)

/-- A set. Forwards, states with the same rest are shared; backwards, those with the same start. -/
def setFootprint (direction : Direction) (set : CharSet) : Footprint :=
  if set.runs.all (·.2 < 0x80) then ⟨2 * stateSize + set.runs.length * rangeSize, false⟩
  else
    let rows := set.runs.flatMap Text.byteRows
    let rests := restsOf 4 rows
    match direction with
    | .forwards =>
      let sizes := rests.eraseDups.map fun rows =>
        stateSize + (firstRanges rows).length * rangeSize
      ⟨stateSize + sizes.foldl (· + ·) 0, false⟩
    | .backwards =>
      let steps := (rests.map fun rows => (firstRanges rows).length).foldl (· + ·) 0
      ⟨(2 + steps) * stateSize + rows.length * branchSize, false⟩

/-! ## Texts -/

/-- The texts between those that are empty. Of empty ones in front, the first counts only. -/
def chunks (words : List (List UInt8)) : List (List (List UInt8)) :=
  match words with
  | [] :: rest => [] :: split (rest.dropWhile List.isEmpty)
  | words => split words
where
  split : List (List UInt8) → List (List (List UInt8))
    | [] => [[]]
    | [] :: rest => [] :: split rest
    | word :: rest =>
      match split rest with
      | chunk :: chunks => (word :: chunk) :: chunks
      | [] => [[word]]

/-- What it takes to read any of some texts, byte by byte, none of which is longer than the depth.
Texts with the same start share the states for it, up to where one of them ends. -/
def wordsSize : Nat → List (List UInt8) → Nat
  | 0, _ => 0
  | depth + 1, words =>
    if words.all List.isEmpty then 0
    else
      let chunks := chunks words
      let sizes := chunks.map fun chunk =>
        let firsts := (chunk.filterMap List.head?).eraseDups
        let reader := match firsts.length with
          | 0 => 0
          | 1 => stateSize + branchSize
          | n => stateSize + n * rangeSize + branchSize
        let rests := firsts.map fun first =>
          wordsSize depth
            (chunk.filterMap fun word => if word.head? = some first then word.tail? else none)
        reader + rests.foldl (· + ·) 0
      stateSize + (chunks.length - 1) * branchSize + sizes.foldl (· + ·) 0

/-- The bytes of a text. -/
def bytesOf (chars : List Char) : List UInt8 := (String.ofList chars).toUTF8.toList

/-- Any of some texts. -/
def textsFootprint (direction : Direction) (texts : List (List Char)) : Footprint :=
  let words := texts.map fun text => match direction with
    | .forwards => bytesOf text
    | .backwards => (bytesOf text).reverse
  let depth := words.foldl (fun n word => Nat.max n word.length) 0
  ⟨stateSize + wordsSize (depth + 1) words, false⟩

/-! ## Expressions -/

namespace Expression

/-- What an expression takes, on its own and as alternatives of a larger one. -/
def footprints (direction : Direction) : Expression → Footprint × Nat
  | .empty | .look .. => plain (.states 1)
  | .text chars => plain (.states (byteSize chars))
  | .one set => plain (setFootprint direction set)
  | .times a min max _ =>
    let part := (a.footprints direction).1
    plain <| match max with
      | none => part.atLeast (a.minLength.all (· = 0)) min
      | some max =>
        if min = 0 && max = 1 then part.option
        else if max ≤ min then part.copies min
        else part.between min (max - min)
  | .group _ a =>
    let part := (a.footprints direction).1
    plain <| match direction with
      | .forwards => (part.followedBy (.states 1)).followedBy (.states 1)
      | .backwards => part
  | .seq a b =>
    let first := (a.footprints direction).1
    let second := (b.footprints direction).1
    plain <| match direction with
      | .forwards => first.followedBy second
      | .backwards => second.followedBy first
  | .alt a b =>
    let branches := (a.footprints direction).1.asBranch + (b.footprints direction).2
    match (Expression.alt a b).branches.mapM text? with
    | some texts => (textsFootprint direction texts, branches)
    | none => (⟨2 * stateSize + branches, false⟩, branches)
where
  plain (a : Footprint) : Footprint × Nat := (a, a.asBranch)

/-- What the automaton of an expression takes. Where a match may start anywhere, it skips bytes
first. -/
def footprint (direction : Direction) (e : Expression) : Nat :=
  let anchored := match direction with
    | .forwards => e.startsText
    | .backwards => e.endsText
  let skipping := if anchored then stateSize else 3 * stateSize + rangeSize + 2 * branchSize
  let whole := match direction with
    | .forwards => ((Expression.group 0 e).footprints direction).1
    | .backwards => (e.footprints direction).1
  skipping + (whole.followedBy (.states 1)).bytes

/-- Does an expression take no more memory than it may? -/
def fits (e : Expression) : Bool :=
  e.footprint .forwards ≤ maxFootprint && e.footprint .backwards ≤ maxFootprint

end Expression

end PodMesh.Pattern
