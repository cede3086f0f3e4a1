import PodMesh.Text.Line

/-!
# Network addresses

Version 4 and version 6 addresses and their text. An octet is written in decimal
without leading zeros, a group in lower-case hexadecimal without leading zeros. The
first of the longest runs of two or more zero groups is left out and marked by `::`.
An address whose first five groups are zero and whose sixth is all ones stands for a
version 4 address and shows it dotted.

Reading is more liberal: groups may have leading zeros and upper-case digits, any run
of zero groups may be the one left out, and the last two groups may always be dotted.
-/

namespace PodMesh

/-- An internet address of either version. -/
inductive Address where
  | v4 (octets : Vector UInt8 4)
  | v6 (groups : Vector UInt16 8)
  deriving DecidableEq, Repr

namespace Address

/-! ## Numbers -/

/-- A natural number in lower-case digits of a base. -/
def inBase (base n : Nat) : List Char := Nat.toDigits base n

/-- The value of a digit, in either case, up to sixteen of them. -/
def digitValue? (c : Char) : Option Nat :=
  if '0' ≤ c && c ≤ '9' then some (c.toNat - '0'.toNat)
  else if 'a' ≤ c && c ≤ 'f' then some (c.toNat - 'a'.toNat + 10)
  else if 'A' ≤ c && c ≤ 'F' then some (c.toNat - 'A'.toNat + 10)
  else none

/-- The number that digits of a base write; no digits write none. -/
def ofBase? (base : Nat) (cs : List Char) : Option Nat :=
  if cs.isEmpty then none
  else cs.foldlM (fun n c => do
    let d ← digitValue? c
    if d < base then some (n * base + d) else none) 0

/-- An octet: at most 255, and no zero in front of another digit. -/
def octet? (cs : List Char) : Option UInt8 := do
  let n ← ofBase? 10 cs
  if cs.length ≤ 3 && n < 256 && (cs.length = 1 || cs.head? ≠ some '0') then
    some (UInt8.ofNat n)
  else none

/-- A group: one to four hexadecimal digits. -/
def group? (cs : List Char) : Option UInt16 := do
  let n ← ofBase? 16 cs
  if cs.length ≤ 4 then some (UInt16.ofNat n) else none

/-! ## Version 4 -/

def octetsText (octets : Vector UInt8 4) : List Char :=
  ['.'].intercalate (octets.toList.map fun o => inBase 10 o.toNat)

def octets? (cs : List Char) : Option (Vector UInt8 4) := do
  let octets ← (Text.splitOn '.' cs).mapM octet?
  if h : octets.length = 4 then some ⟨octets.toArray, by simpa using h⟩ else none

/-! ## Version 6 -/

/-- A run of zero groups: where it starts and how long it is. -/
structure Gap where
  start : Nat
  length : Nat
  deriving DecidableEq, Repr

/-- The number of zero groups a list starts with. -/
def zeros (groups : List UInt16) : Nat := (groups.takeWhile (· = 0)).length

/-- The first of the longest runs of zero groups. -/
def longestGap : List UInt16 → Gap
  | [] => ⟨0, 0⟩
  | g :: rest =>
    let later := longestGap rest
    let here := zeros (g :: rest)
    if later.length ≤ here then ⟨0, here⟩ else ⟨later.start + 1, later.length⟩

def groupsJoined (groups : List UInt16) : List Char :=
  [':'].intercalate (groups.map fun g => inBase 16 g.toNat)

/-- The version 4 address that the groups stand for, if they do. -/
def mapped? (groups : Vector UInt16 8) : Option (Vector UInt8 4) :=
  match groups.toList with
  | [0, 0, 0, 0, 0, 0xffff, a, b] =>
    some #v[(a >>> 8).toUInt8, a.toUInt8, (b >>> 8).toUInt8, b.toUInt8]
  | _ => none

def groupsText (groups : Vector UInt16 8) : List Char :=
  match mapped? groups with
  | some octets => "::ffff:".toList ++ octetsText octets
  | none =>
    let gap := longestGap groups.toList
    if 2 ≤ gap.length then
      groupsJoined (groups.toList.take gap.start) ++ "::".toList ++
        groupsJoined (groups.toList.drop (gap.start + gap.length))
    else groupsJoined groups.toList

/-- The groups between colons. The last field may be dotted and gives two. -/
def fields? : List (List Char) → Option (List UInt16)
  | [] => some []
  | [last] =>
    match group? last with
    | some g => some [g]
    | none => do
      let o ← octets? last
      some [o[0].toUInt16 <<< 8 ||| o[1].toUInt16, o[2].toUInt16 <<< 8 ||| o[3].toUInt16]
  | field :: rest => do
    let g ← group? field
    let gs ← fields? rest
    some (g :: gs)

/-- The groups of a part of an address; an empty part has none. -/
def part? (cs : List Char) : Option (List UInt16) :=
  if cs.isEmpty then some [] else fields? (Text.splitOn ':' cs)

/-- What stands before and after the first `::`. -/
def splitGap : List Char → Option (List Char × List Char)
  | ':' :: ':' :: rest => some ([], rest)
  | c :: rest => (splitGap rest).map fun (before, after) => (c :: before, after)
  | [] => none

def ofGroups? (groups : List UInt16) : Option (Vector UInt16 8) :=
  if h : groups.length = 8 then some ⟨groups.toArray, by simpa using h⟩ else none

/-- Eight groups, or fewer around a `::` that stands for at least one zero group. No dotted field
stands before the `::`. -/
def groups? (cs : List Char) : Option (Vector UInt16 8) :=
  match splitGap cs with
  | none => part? cs >>= ofGroups?
  | some (before, after) => do
    if '.' ∈ before then none
    else
      let head ← part? before
      let tail ← part? after
      if head.length + tail.length < 8 then
        ofGroups? (head ++ List.replicate (8 - head.length - tail.length) 0 ++ tail)
      else none

/-! ## Both -/

/-- The text of an address. -/
def text : Address → String
  | .v4 octets => String.ofList (octetsText octets)
  | .v6 groups => String.ofList (groupsText groups)

/-- The address a text writes. -/
def ofText? (s : String) : Option Address :=
  ((octets? s.toList).map .v4).orElse fun _ => (groups? s.toList).map .v6

/-- Of two runs of the same length the first is left out, and a single zero group never is. -/
example : (ofText? "1:0:0:2:0:0:3:4").map text = some "1::2:0:0:3:4" ∧
    (ofText? "::2:3:4:5:6:7:8").map text = some "0:2:3:4:5:6:7:8" ∧
    (ofText? "::FFFF:102:304").map text = some "::ffff:1.2.3.4" := by decide +kernel

end Address

end PodMesh
