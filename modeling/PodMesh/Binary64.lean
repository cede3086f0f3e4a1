/-!
# Binary floating point

The 64-bit binary numbers of IEEE 754, kept as the word that stores them, with exact
natural-number arithmetic underneath. Every operation is the exact result rounded
once, to the nearest number, a tie to the even one.
-/

namespace PodMesh

/-- A number in the 64-bit binary format, as its stored word. -/
structure Binary64 where
  word : UInt64
  deriving DecidableEq, Repr

namespace Binary64

/-- The sign bit of a word. -/
def signBit (negative : Bool) : Nat := if negative then Nat.pow 2 63 else 0

/-- The word of the infinities, without the sign. -/
def infinityBits : Nat := 2047 * Nat.pow 2 52

def zero (negative : Bool) : Binary64 := ⟨UInt64.ofNat (signBit negative)⟩

def infinity (negative : Bool) : Binary64 := ⟨UInt64.ofNat (signBit negative + infinityBits)⟩

def nan : Binary64 := ⟨UInt64.ofNat (infinityBits + Nat.pow 2 51)⟩

/-- The word without its sign bit. -/
def magnitude (x : Binary64) : Nat := x.word.toNat % Nat.pow 2 63

/-- Is the sign bit set? -/
def isNegative (x : Binary64) : Bool := Nat.pow 2 63 ≤ x.word.toNat

def isNaN (x : Binary64) : Bool := infinityBits < x.magnitude

def isInfinite (x : Binary64) : Bool := x.magnitude = infinityBits

def isFinite (x : Binary64) : Bool := x.magnitude < infinityBits

def isZero (x : Binary64) : Bool := x.magnitude = 0

/-- The same number with the other sign. -/
def neg (x : Binary64) : Binary64 :=
  ⟨UInt64.ofNat (signBit (!x.isNegative) + x.magnitude)⟩

/-- The integer a finite number is a multiple of a power of two of. -/
def significand (x : Binary64) : Nat :=
  if x.magnitude < Nat.pow 2 52 then x.magnitude else x.magnitude % Nat.pow 2 52 + Nat.pow 2 52

/-- The power of two that goes with `significand`. -/
def exponent (x : Binary64) : Int :=
  if x.magnitude < Nat.pow 2 52 then -1074 else (x.magnitude / Nat.pow 2 52 : Nat) - 1075

/-- The size of a finite number as a quotient of natural numbers. -/
def ratio (x : Binary64) : Nat × Nat :=
  if 0 ≤ x.exponent then (x.significand * Nat.pow 2 x.exponent.toNat, 1)
  else (x.significand, Nat.pow 2 (-x.exponent).toNat)

/-- The integer nearest to `num / den`, of two the even one. -/
def divRound (num den : Nat) : Nat :=
  let q := num / den
  let twice := 2 * (num % den)
  if twice < den then q else if den < twice then q + 1 else q + q % 2

/-- `num / den` in units of `2 ^ e`, as a quotient. -/
def scaled (num den : Nat) (e : Int) : Nat × Nat :=
  if 0 ≤ e then (num, den * Nat.pow 2 e.toNat) else (num * Nat.pow 2 (-e).toNat, den)

/-- The unit in the last place of the numbers around `num / den`, as a power of two: the one that
leaves 53 bits before the point, and never less than the least unit there is. -/
def unitExponent (num den : Nat) : Int :=
  let e : Int := (num.log2 : Int) - den.log2 - 53
  let (n, d) := scaled num den e
  max (-1074) (if Nat.pow 2 53 ≤ n / d then e + 1 else e)

/-- The number nearest to `num / den`, of two the one with the even significand. What is too
large for the format is infinite. -/
def ofRatio (negative : Bool) (num den : Nat) : Binary64 :=
  if num = 0 || den = 0 then zero negative
  else
    let e := unitExponent num den
    let (n, d) := scaled num den e
    let bits := (e + 1074).toNat * Nat.pow 2 52 + divRound n d
    if infinityBits ≤ bits then infinity negative
    else ⟨UInt64.ofNat (signBit negative + bits)⟩

def ofNat (n : Nat) : Binary64 := ofRatio false n 1

/-- The number nearest to `digits * 10 ^ exponent`. An exponent that is out of all proportion is
settled without computing the power. -/
def ofDecimal (negative : Bool) (digits : Nat) (exponent : Int) : Binary64 :=
  if digits = 0 then zero negative
  else if 310 < exponent then infinity negative
  else if exponent < -(400 + digits.log2 : Nat) then zero negative
  else if 0 ≤ exponent then ofRatio negative (digits * Nat.pow 10 exponent.toNat) 1
  else ofRatio negative digits (Nat.pow 10 (-exponent).toNat)

/-- The product, for finite factors. -/
def mul (x y : Binary64) : Binary64 :=
  let (a, b) := x.ratio
  let (c, d) := y.ratio
  ofRatio (x.isNegative != y.isNegative) (a * c) (b * d)

/-- The quotient by a finite number other than zero. -/
def div (x y : Binary64) : Binary64 :=
  if x.isNaN then nan
  else if x.isInfinite then infinity (x.isNegative != y.isNegative)
  else
    let (a, b) := x.ratio
    let (c, d) := y.ratio
    ofRatio (x.isNegative != y.isNegative) (a * d) (b * c)

/-- Is the number less than a natural number? Nothing that is not a number is. -/
def lt (x : Binary64) (bound : Nat) : Bool :=
  if x.isNaN then false
  else if x.isNegative then 0 < bound || !x.isZero
  else if x.isInfinite then false
  else x.ratio.1 < bound * x.ratio.2

/-- The greatest finite number and the least positive one are where the format puts them. -/
example : ofDecimal false 17976931348623157 292 = ⟨0x7fefffffffffffff⟩ ∧
    ofDecimal false 5 (-324) = ⟨1⟩ ∧ ofDecimal false 1 309 = infinity false := by decide +kernel

end Binary64

end PodMesh
