import PodMesh.Binary64.Fixed

/-!
# Shortest decimal text

The fewest decimal digits that read back as the same number, and of those the nearest
to it. A number stands for every real that rounds to it: the interval between the
midpoints to its neighbours, ends included when its significand is even.
-/

namespace PodMesh.Binary64

/-- The reals that round to a finite number other than zero, in quarters of its unit: the number
itself and both ends. The lower neighbour of a power of two is only half as far away. -/
structure Rounding where
  low : Nat
  value : Nat
  high : Nat
  /-- The quarter unit, as a quotient. -/
  unit : Nat × Nat
  closed : Bool

def rounding (x : Binary64) : Rounding :=
  let m := x.significand
  let narrow := m = Nat.pow 2 52 && Nat.pow 2 53 ≤ x.magnitude
  { low := 4 * m - (if narrow then 1 else 2)
    value := 4 * m
    high := 4 * m + 2
    unit := scaled 1 1 (2 - x.exponent)
    closed := m % 2 = 0 }

/-- A candidate `d * 10 ^ k` in quarter units, as a quotient. -/
def Rounding.place (r : Rounding) (d : Nat) (k : Int) : Nat × Nat :=
  let num := d * r.unit.2
  if 0 ≤ k then (num * Nat.pow 10 k.toNat, r.unit.1) else (num, r.unit.1 * Nat.pow 10 (-k).toNat)

/-- Does the candidate read back as the number? -/
def Rounding.holds (r : Rounding) (d : Nat) (k : Int) : Bool :=
  let (num, den) := r.place d k
  if r.closed then r.low * den ≤ num && num ≤ r.high * den
  else r.low * den < num && num < r.high * den

/-- How far the candidate is from the number, over the denominator of `place`. -/
def Rounding.distance (r : Rounding) (d : Nat) (k : Int) : Nat :=
  let (num, den) := r.place d k
  (num - r.value * den) + (r.value * den - num)

/-- The multiple of `10 ^ k` just below the number or at it. -/
def Rounding.below (r : Rounding) (k : Int) : Nat :=
  let (num, den) := r.place 1 k
  r.value * den / num

/-- The better of the number's two neighbours on the grid of multiples of `10 ^ k`, if one of them
reads back. Of two at the same distance the even one is taken. -/
def Rounding.onGrid? (r : Rounding) (k : Int) : Option Nat :=
  let d := r.below k
  match r.holds d k, r.holds (d + 1) k with
  | false, false => none
  | true, false => some d
  | false, true => some (d + 1)
  | true, true =>
    if r.distance d k < r.distance (d + 1) k then some d
    else if r.distance (d + 1) k < r.distance d k then some (d + 1)
    else some (d + d % 2)

/-- The first of the grids, coarse to fine, that has a candidate. -/
def Rounding.search (r : Rounding) (k : Int) : Nat → Nat × Int
  | 0 => (r.below k, k)
  | steps + 1 =>
    match r.onGrid? k with
    | some d => (d, k)
    | none => search r (k - 1) steps

/-- The power of ten of the first digit of `num / den`, or one more. -/
def tens (num den : Nat) : Int :=
  if den ≤ num then ((Nat.toDigits 10 (num / den)).length : Nat)
  else 1 - ((Nat.toDigits 10 (den / num)).length : Nat)

/-- The shortest digits of a finite number other than zero and the power of ten that goes with
them; the last digit is not zero. -/
def shortest (x : Binary64) : Nat × Int :=
  let (num, den) := x.ratio
  trimZeros 20 (x.rounding.search (tens num den) 20)
where
  trimZeros : Nat → Nat × Int → Nat × Int
    | 0, r => r
    | fuel + 1, (d, k) => if d ≠ 0 && d % 10 = 0 then trimZeros fuel (d / 10, k + 1) else (d, k)

/-- How a shortest number is laid out: positional where the point falls near the digits, with an
exponent elsewhere. -/
structure Layout where
  /-- Positional up to so many digits before the point. -/
  maxWhole : Nat
  /-- Positional down to so many zeros between the point and the first digit. -/
  maxZeros : Nat

/-- The text of a finite number. Positional notation always has a digit on either side of the
point; an exponent has its sign and no padding. -/
def Layout.text (layout : Layout) (x : Binary64) : List Char :=
  let sign := if x.isNegative then ['-'] else []
  if x.isZero then sign ++ "0.0".toList
  else
    let (d, k) := x.shortest
    let ds := digits d
    let whole : Int := ds.length + k
    sign ++
      if 0 ≤ k && whole ≤ layout.maxWhole then
        ds ++ List.replicate k.toNat '0' ++ ".0".toList
      else if 0 < whole && whole ≤ layout.maxWhole then
        ds.take whole.toNat ++ '.' :: ds.drop whole.toNat
      else if whole ≤ 0 && -whole ≤ layout.maxZeros then
        "0.".toList ++ List.replicate (-whole).toNat '0' ++ ds
      else
        let mantissa := match ds with
          | first :: [] => [first]
          | first :: rest => first :: '.' :: rest
          | [] => []
        let e := whole - 1
        mantissa ++ 'e' :: (if e < 0 then '-' else '+') :: digits e.natAbs

end PodMesh.Binary64
