import PodMesh.Pattern.Escape

/-!
# Classes

A class writes a set of characters between brackets, as characters, ranges, escapes,
named sets of ASCII and classes again. Operators combine what stands on their left with
the items up to the next operator. How deep the notation nests is kept beside each set.
-/

namespace PodMesh.Pattern

open Text (CharSet)

/-- How two parts of a class combine. -/
inductive ClassOp where
  | inter
  | diff
  | symmDiff
  deriving DecidableEq, Repr

def ClassOp.apply : ClassOp → CharSet → CharSet → CharSet
  | .inter, a, b => a.inter b
  | .diff, a, b => a.diff b
  | .symmDiff, a, b => a.symmDiff b

/-- A set as it was written, and how deep its notation nests. -/
structure Written where
  set : CharSet
  depth : Nat := 0

/-! ## Items -/

/-- One item of a class, before a range is made of it. -/
def readItem (flags : Flags) : List Char → Except Fault (Escape × List Char)
  | [] => .error .unclosedClass
  | '\\' :: rest => readEscape flags rest
  | c :: rest => .ok (.char c, rest)

/-- One item of a class as a set. -/
def Escape.item (flags : Flags) : Escape → Except Fault CharSet
  | .char c => if !flags.unicode && 0x7f < c.toNat then .error .notText else .ok (.one c)
  | .set chars => .ok chars
  | .look _ => .error .badEscape

/-- An item of a class, or a range from one character to another. -/
def readRange (flags : Flags) (src : List Char) : Except Fault (CharSet × List Char) := do
  let (first, rest) ← readItem flags src
  match flags.skip rest with
  | [] => throw .unclosedClass
  | '-' :: after =>
    if flags.peek after ∈ [some ']', some '-'] then return (← first.item flags, '-' :: after)
    match flags.skip after with
    | [] => throw .unclosedClass
    | after =>
      let (last, rest) ← readItem flags after
      match first, last with
      | .char a, .char b =>
        if b < a then throw .badClass
        if !flags.unicode && 0x7f < b.toNat then throw .notText
        return (.between a b, rest)
      | _, _ => throw .badClass
  | rest => return (← first.item flags, rest)

/-- A set of ASCII between colons, after the opening bracket; none if it is anything else. -/
def readAscii? (src : List Char) : Option (Bool × CharSet × List Char) :=
  match src with
  | ':' :: rest =>
    let (negated, rest) := match rest with
      | '^' :: rest => (true, rest)
      | rest => (false, rest)
    match rest.takeWhile (· ≠ ':'), rest.dropWhile (· ≠ ':') with
    | name, ':' :: ']' :: rest => (asciiSet? name).map fun set => (negated, set, rest)
    | _, _ => none
  | _ => none

/-- A set, or its complement if it is negated. Without Unicode the complement would have parts of
characters. -/
def Flags.finish (flags : Flags) (negated : Bool) (set : CharSet) : Except Fault CharSet :=
  if negated && !flags.unicode then .error .notText
  else .ok ((flags.folded set).complementIf negated)

/-! ## Classes -/

/-- The items read since the last operator. -/
structure Items where
  set : CharSet := .empty
  count : Nat := 0
  depth : Nat := 0

namespace Items

def add (items : Items) (item : Written) : Items :=
  ⟨items.set.union item.set, items.count + 1, Nat.max items.depth item.depth⟩

/-- Several items nest one deeper than each of them. -/
def written (items : Items) : Written :=
  ⟨items.set, if 1 < items.count then items.depth + 1 else items.depth⟩

end Items

/-- What stands on the left of an operator. -/
structure Operand where
  op : ClassOp
  left : Written

/-- All that was read of a class: the items, and what an operator combines them with. -/
def whole (flags : Flags) (operand : Option Operand) (items : Items) : Written :=
  let items := items.written
  match operand with
  | none => items
  | some ⟨op, left⟩ =>
    ⟨op.apply (flags.folded left.set) (flags.folded items.set),
      Nat.max left.depth items.depth + 1⟩

/-- The characters that stand for themselves where a class starts: dashes, or else a closing
bracket. -/
def leadingItems (flags : Flags) (src : List Char) : Items × List Char :=
  match flags.takeWhile (· = '-') src with
  | ([], ']' :: rest) => (({} : Items).add ⟨.one ']', 0⟩, rest)
  | ([], rest) => ({}, rest)
  | (dashes, rest) => (⟨.one '-', dashes.length, 0⟩, rest)

mutual

/-- A class after its opening bracket. Every bracket takes a character, so the length of the pattern
suffices for `depth`. -/
def readClass (flags : Flags) : Nat → List Char → Except Fault (Written × List Char)
  | 0, _ => .error .unclosedClass
  | depth + 1, src =>
    let (negated, src) := match flags.skip src with
      | '^' :: rest => (true, flags.skip rest)
      | src => (false, src)
    let (items, src) := leadingItems flags src
    match readItems flags depth none items src with
    | .error fault => .error fault
    | .ok (written, rest) =>
      (flags.finish negated written.set).map fun set => (⟨set, written.depth + 1⟩, rest)

/-- The items of a class up to its closing bracket, after what was read on the left of an operator
and the items since. -/
def readItems (flags : Flags) :
    Nat → Option Operand → Items → List Char → Except Fault (Written × List Char)
  | 0, _, _, _ => .error .unclosedClass
  | depth + 1, operand, items, src =>
    let operator (op : ClassOp) (rest : List Char) : Except Fault (Written × List Char) :=
      readItems flags depth (some ⟨op, whole flags operand items⟩) {} rest
    match flags.skip src with
    | [] => .error .unclosedClass
    | ']' :: rest => .ok (whole flags operand items, rest)
    | '&' :: '&' :: rest => operator .inter rest
    | '-' :: '-' :: rest => operator .diff rest
    | '~' :: '~' :: rest => operator .symmDiff rest
    | '[' :: rest =>
      match readAscii? rest with
      | some (negated, set, rest) =>
        match flags.finish negated set with
        | .ok set => readItems flags depth operand (items.add ⟨set, 0⟩) rest
        | .error fault => .error fault
      | none =>
        match readClass flags depth rest with
        | .ok (item, rest) => readItems flags depth operand (items.add item) rest
        | .error fault => .error fault
    | src =>
      match readRange flags src with
      | .ok (set, rest) => readItems flags depth operand (items.add ⟨set, 0⟩) rest
      | .error fault => .error fault

end

end PodMesh.Pattern
