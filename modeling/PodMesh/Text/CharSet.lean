import PodMesh.Text.Blank

/-!
# Sets of characters

A set of characters is kept as runs of numbers of characters: each run has a first and a
last number, the runs are in order, and between two of them a character is left out. So
two sets with the same characters are equal, and every operation is one walk over runs.

No character has a number from 0xD800 to 0xDFFF. A run may lead across that gap.
-/

namespace PodMesh.Text

/-- A run of characters, by the numbers of its first and its last one. -/
abbrev Run := Nat × Nat

/-- A set of characters. -/
structure CharSet where
  runs : List Run
  deriving DecidableEq, Repr, Inhabited

namespace CharSet

/-- The greatest number of a character. -/
def last : Nat := 0x10ffff

/-- The number of the next character. -/
def after (n : Nat) : Nat := if n = 0xd7ff then 0xe000 else n + 1

/-- The number of the character before. -/
def before (n : Nat) : Nat := if n = 0xe000 then 0xd7ff else n - 1

/-- Joins runs, which come in order of their starts, to the run under way wherever they touch. -/
def joinAfter (run : Run) : List Run → List Run
  | [] => [run]
  | next :: rest =>
    if next.1 ≤ after run.2 then joinAfter (run.1, Nat.max run.2 next.2) rest
    else run :: joinAfter next rest

/-- Runs in order of their starts, joined wherever they touch. -/
def join : List Run → List Run
  | [] => []
  | run :: rest => joinAfter run rest

/-- The set of the characters of some runs. -/
def ofRuns (runs : List Run) : CharSet := ⟨join (runs.mergeSort fun r s => r.1 ≤ s.1)⟩

def empty : CharSet := ⟨[]⟩

/-- Every character. -/
def all : CharSet := ⟨[(0, last)]⟩

def range (low high : Nat) : CharSet := ofRuns [(low, high)]

def one (c : Char) : CharSet := ⟨[(c.toNat, c.toNat)]⟩

def between (low high : Char) : CharSet := ⟨[(low.toNat, high.toNat)]⟩

def ofList (cs : List Char) : CharSet := ofRuns (cs.map fun c => (c.toNat, c.toNat))

/-- Is a character in the set? -/
def mem (set : CharSet) (c : Char) : Bool :=
  set.runs.any fun run => run.1 ≤ c.toNat && c.toNat ≤ run.2

def isEmpty (set : CharSet) : Bool := set.runs.isEmpty

def union (a b : CharSet) : CharSet := ofRuns (a.runs ++ b.runs)

def unions (sets : List CharSet) : CharSet := ofRuns (sets.flatMap runs)

/-- What lies between runs from some number on. -/
def gaps (start : Nat) : List Run → List Run
  | [] => if start ≤ last then [(start, last)] else []
  | run :: rest =>
    if start < run.1 then (start, before run.1) :: gaps (after run.2) rest
    else gaps (after run.2) rest

def complement (set : CharSet) : CharSet := ⟨gaps 0 set.runs⟩

def inter (a b : CharSet) : CharSet := complement (union (complement a) (complement b))

def diff (a b : CharSet) : CharSet := inter a (complement b)

def symmDiff (a b : CharSet) : CharSet := union (diff a b) (diff b a)

def complementIf (negated : Bool) (set : CharSet) : CharSet :=
  if negated then complement set else set

/-- The character of a set that has one only. -/
def single? (set : CharSet) : Option Char :=
  match set.runs with
  | [(a, b)] => if a = b then some (Char.ofNat a) else none
  | _ => none

/-! ## Tables

A table writes runs one after the other: `41-5A` has all from the first number to the
second, `100-12E/2` every second one of them, `AA` one only. Numbers are hexadecimal.
-/

/-- The value of a hexadecimal digit in upper case. -/
def digitValue (c : Char) : Nat :=
  if c.isDigit then c.toNat - '0'.toNat else c.toNat - 'A'.toNat + 10

def numberOf (digits : List Char) : Nat :=
  digits.foldl (fun n c => n * 16 + digitValue c) 0

/-- The runs that a word of a table writes. -/
def runsOf (word : List Char) : List Run :=
  let (low, rest) := (word.takeWhile Char.isAlphanum, word.dropWhile Char.isAlphanum)
  match rest with
  | '-' :: rest =>
    let (high, rest) := (rest.takeWhile Char.isAlphanum, rest.dropWhile Char.isAlphanum)
    if rest.isEmpty then [(numberOf low, numberOf high)]
    else
      (List.range ((numberOf high - numberOf low) / 2 + 1)).map fun i =>
        (numberOf low + 2 * i, numberOf low + 2 * i)
  | _ => [(numberOf low, numberOf low)]

/-- The set that a table writes. -/
def ofTable (table : String) : CharSet := ofRuns ((words table.toList).flatMap runsOf)

example : (words "61-7A AA 100-104/2".toList).flatMap runsOf =
    [(0x61, 0x7a), (0xaa, 0xaa), (0x100, 0x100), (0x102, 0x102), (0x104, 0x104)] := by
  decide +kernel

end CharSet

end PodMesh.Text
