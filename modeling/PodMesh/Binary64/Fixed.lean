import PodMesh.Binary64

/-!
# Fixed-point text

A number written with a fixed count of decimal places. The digits are those of the
exact value rounded once, a tie to the even last digit.
-/

namespace PodMesh.Binary64

/-- A natural number in decimal digits. -/
def digits (n : Nat) : List Char := Nat.toDigits 10 n

/-- A count of units of `10 ^ -places`, with the point put in. -/
def pointed (places units : Nat) : List Char :=
  let unit := Nat.pow 10 places
  let fraction := digits (units % unit)
  digits (units / unit) ++ '.' :: (List.replicate (places - fraction.length) '0' ++ fraction)

/-- The number with `places` decimals. A sign is kept even where every digit is zero. -/
def fixed (places : Nat) (x : Binary64) : List Char :=
  if x.isNaN then "NaN".toList
  else
    let sign := if x.isNegative then ['-'] else []
    if x.isInfinite then sign ++ "inf".toList
    else
      let (num, den) := x.ratio
      sign ++ pointed places (divRound (num * Nat.pow 10 places) den)

/-- A tie goes to the even neighbour, and a negative zero keeps its sign. -/
example : fixed 2 (ofDecimal false 125 (-3)) = "0.12".toList ∧
    fixed 2 (ofDecimal false 375 (-3)) = "0.38".toList ∧
    fixed 2 (zero true) = "-0.00".toList := by decide +kernel

end PodMesh.Binary64
