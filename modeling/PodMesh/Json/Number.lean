import PodMesh.Json.Fault
import PodMesh.Text.Utf8

/-!
# Numbers in documents

A number without point and exponent is an integer as long as 64 bits hold it. Any other
is binary: its first digits, as many as 64 bits hold, make a significand, and that is
rounded and then scaled by a power of ten, with one more rounding. The result may miss
the nearest number by a little.
-/

namespace PodMesh.Json

open PodMesh.Text (Symbol)

/-- A number as a document gives it. -/
inductive Number where
  | natural (n : Nat)
  /-- The number `-n`, which is negative. -/
  | negative (n : Nat)
  | binary (x : Binary64)
  deriving DecidableEq, Repr

/-- The greatest integer that 64 bits hold. -/
def maxWord : Nat := Nat.pow 2 64 - 1

def isDigit (s : Symbol) : Bool := (s.char?.map Char.isDigit).getD false

/-- The value of a digit. -/
def digit (s : Symbol) : Nat := (s.char?.map fun c => c.toNat - '0'.toNat).getD 0

/-- Adds digits to a significand until the next would not fit. Gives the significand and the digits
left over. -/
def absorb (significand : Nat) : List Symbol → Nat × List Symbol
  | [] => (significand, [])
  | s :: rest =>
    let next := significand * 10 + digit s
    if maxWord < next then (significand, s :: rest) else absorb next rest

/-- The power of ten that scales a significand, as a binary number. -/
def powerOfTen (n : Nat) : Binary64 := Binary64.ofRatio false (Nat.pow 10 n) 1

/-- A significand scaled by a power of ten; none when that is too large. A power beyond the greatest
one there is is applied in steps. -/
def scale? : Nat → Binary64 → Int → Option Binary64
  | 0, x, _ => some x
  | steps + 1, x, exponent =>
    if exponent.natAbs ≤ 308 then
      if 0 ≤ exponent then
        let y := x.mul (powerOfTen exponent.natAbs)
        if y.isInfinite then none else some y
      else some (x.div (powerOfTen exponent.natAbs))
    else if x.isZero then some x
    else if 0 ≤ exponent then none
    else scale? steps (x.div (powerOfTen 308)) (exponent + 308)

/-- The number of a significand and a power of ten. Four steps leave nothing of any significand. -/
def ofParts (negative : Bool) (significand : Nat) (exponent : Int) : Except Fault Number :=
  match scale? 5 (Binary64.ofNat significand) exponent with
  | some x => .ok (.binary (if negative then x.neg else x))
  | none => .error .numberTooLarge

/-- The number of a significand, a power of ten from the digits, and a written exponent. An exponent
beyond 32 bits leaves no number, or nothing of it. -/
def ofExponent (negative : Bool) (significand : Nat) (exponent : Int) (lowered : Bool)
    (digits : List Symbol) : Except Fault Number :=
  let n := digits.foldl (fun n s => n * 10 + digit s) 0
  if Nat.pow 2 31 ≤ n then
    if significand ≠ 0 && !lowered then .error .numberTooLarge
    else .ok (.binary (Binary64.zero negative))
  else
    let limit : Int := Nat.pow 2 31
    let exponent := if lowered then max (-limit) (exponent - n) else min (limit - 1) (exponent + n)
    ofParts negative significand exponent

/-- Reads the digits of an exponent after its letter, and its sign. -/
def readExponent (negative : Bool) (significand : Nat) (exponent : Int) (src : List Symbol) :
    Except Fault (Number × List Symbol) :=
  let (lowered, src) := match src with
    | .char '+' :: rest => (false, rest)
    | .char '-' :: rest => (true, rest)
    | _ => (false, src)
  match src with
  | [] => .error (.ends .value)
  | s :: _ =>
    if isDigit s then do
      let n ← ofExponent negative significand exponent lowered (src.takeWhile isDigit)
      return (n, src.dropWhile isDigit)
    else .error .badNumber

/-- Reads an exponent, if there is one. -/
def readScaled (negative : Bool) (significand : Nat) (exponent : Int) (src : List Symbol) :
    Except Fault (Number × List Symbol) :=
  match src with
  | .char 'e' :: rest | .char 'E' :: rest => readExponent negative significand exponent rest
  | _ => do return (← ofParts negative significand exponent, src)

/-- Reads what follows the digits of the whole part: `exponent` of them did not fit the
significand. -/
def readRest (negative : Bool) (significand exponent : Nat) (src : List Symbol) :
    Except Fault (Number × List Symbol) :=
  match src with
  | .char '.' :: rest =>
    let digits := rest.takeWhile isDigit
    let after := rest.dropWhile isDigit
    if digits.isEmpty then .error (if after.isEmpty then .ends .value else .badNumber)
    else
      let (significand, left) := absorb significand digits
      readScaled negative significand (exponent - (digits.length - left.length : Nat)) after
  | .char 'e' :: _ | .char 'E' :: _ => readScaled negative significand exponent src
  | _ =>
    if exponent = 0 then
      if !negative then .ok (.natural significand, src)
      else if significand = 0 || Nat.pow 2 63 < significand then
        .ok (.binary (Binary64.ofNat significand).neg, src)
      else .ok (.negative significand, src)
    else readScaled negative significand exponent src

/-- Reads a number after its sign. -/
def readUnsigned (negative : Bool) (src : List Symbol) : Except Fault (Number × List Symbol) :=
  let digits := src.takeWhile isDigit
  let after := src.dropWhile isDigit
  match digits with
  | [] => .error (if src.isEmpty then .ends .value else .badNumber)
  | .char '0' :: _ :: _ => .error .badNumber
  | _ =>
    let (significand, left) := absorb 0 digits
    readRest negative significand left.length after

/-- Reads a number. -/
def readNumber (src : List Symbol) : Except Fault (Number × List Symbol) :=
  match src with
  | .char '-' :: rest => readUnsigned true rest
  | _ => readUnsigned false src

/-- What follows a number that nobody asks for. It must be well formed, and may be of any size. -/
def skipNumber (src : List Symbol) : Except Fault (List Symbol) :=
  let src := match src with
    | .char '-' :: rest => rest
    | _ => src
  match src.takeWhile isDigit with
  | [] => .error .badNumber
  | .char '0' :: _ :: _ => .error .badNumber
  | _ => do
    let after ← match src.dropWhile isDigit with
      | .char '.' :: rest =>
        if rest.head?.any isDigit then pure (rest.dropWhile isDigit) else .error .badNumber
      | rest => pure rest
    match after with
    | .char 'e' :: rest | .char 'E' :: rest =>
      let rest := match rest with
        | .char '+' :: rest | .char '-' :: rest => rest
        | _ => rest
      if rest.head?.any isDigit then return rest.dropWhile isDigit else .error .badNumber
    | rest => return rest

end PodMesh.Json
