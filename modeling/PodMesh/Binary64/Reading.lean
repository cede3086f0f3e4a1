import PodMesh.Binary64

/-!
# Reading decimal text

A decimal number is an optional sign, digits with at most one point among or around
them, and an optional exponent. The words `inf`, `infinity` and `nan` are read too, in
any case. The value is the number nearest to what is written.
-/

namespace PodMesh.Binary64

/-- Why a text is no number. -/
inductive ReadingFault where
  | empty
  | malformed
  deriving DecidableEq, Repr

def ReadingFault.message : ReadingFault → String
  | .empty => "cannot parse float from empty string"
  | .malformed => "invalid float literal"

/-- The number that decimal digits write, most significant first. -/
def ofDigits (ds : List Char) : Nat :=
  ds.foldl (fun n c => n * 10 + (c.toNat - '0'.toNat)) 0

/-- An optional sign, and what follows it. -/
def takeSign : List Char → Bool × List Char
  | '-' :: rest => (true, rest)
  | '+' :: rest => (false, rest)
  | cs => (false, cs)

/-- The exponent at the end of a number: nothing, or `e`, an optional sign and digits. -/
def readExponent? : List Char → Option Int
  | [] => some 0
  | e :: rest =>
    if e = 'e' || e = 'E' then
      let (negative, ds) := takeSign rest
      if ds.isEmpty || !ds.all Char.isDigit then none
      else some (if negative then -(ofDigits ds : Int) else ofDigits ds)
    else none

/-- A number without its sign. -/
def readUnsigned? (negative : Bool) (cs : List Char) : Option Binary64 :=
  let lower := cs.map Char.toLower
  if lower = "inf".toList || lower = "infinity".toList then some (infinity negative)
  else if lower = "nan".toList then some nan
  else
    let whole := cs.takeWhile Char.isDigit
    let (fraction, rest) := match cs.dropWhile Char.isDigit with
      | '.' :: rest => (rest.takeWhile Char.isDigit, rest.dropWhile Char.isDigit)
      | rest => ([], rest)
    if whole.isEmpty && fraction.isEmpty then none
    else
      (readExponent? rest).map fun e =>
        ofDecimal negative (ofDigits (whole ++ fraction)) (e - fraction.length)

/-- The number a text writes. -/
def read (cs : List Char) : Except ReadingFault Binary64 :=
  if cs.isEmpty then .error .empty
  else
    let (negative, rest) := takeSign cs
    match readUnsigned? negative rest with
    | some x => .ok x
    | none => .error .malformed

end PodMesh.Binary64
