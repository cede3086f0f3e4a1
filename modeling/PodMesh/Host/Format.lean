import PodMesh.Binary64.Fixed
import PodMesh.Binary64.Reading
import PodMesh.Text.Octets

/-!
# Formats

What a format prints for some arguments. A format is text with escapes and directives; a
directive takes an argument and says how it is written: as text, as a whole number in
some base, or as a number with places behind the point, and in how wide a field. A format
is used again as long as there are arguments.

There are two dialects. In the shell's own one, a format has no escapes by two hexadecimal
digits and nothing in it ends all output.
-/

namespace PodMesh.Host

/-- The dialect of formats and of escapes. -/
inductive Dialect where
  /-- That of the shell's own commands. -/
  | builtIn
  /-- That of programs. -/
  | standalone
  deriving DecidableEq, Repr

/-! ## Escapes -/

namespace Escapes

/-- The value of up to `n` octal digits, and what follows them. -/
def octal : Nat → Nat → List Char → Nat × List Char
  | 0, value, src => (value, src)
  | n + 1, value, c :: rest =>
    if '0' ≤ c && c ≤ '7' then octal n (value * 8 + (c.toNat - '0'.toNat)) rest
    else (value, c :: rest)
  | _, value, [] => (value, [])

/-- Does a character start an octal number? -/
def isOctal (c : Char) : Bool := '0' ≤ c && c ≤ '7'

/-- The value of a hexadecimal digit. -/
def hexValue? (c : Char) : Option Nat :=
  if c.isDigit then some (c.toNat - '0'.toNat)
  else if 'a' ≤ c && c ≤ 'f' then some (c.toNat - 'a'.toNat + 10)
  else if 'A' ≤ c && c ≤ 'F' then some (c.toNat - 'A'.toNat + 10)
  else none

/-- The characters that one-letter escapes stand for. -/
def letters : List (Char × Char) :=
  [('\\', '\\'), ('a', '\x07'), ('b', '\x08'), ('f', '\x0c'), ('n', '\n'), ('r', '\r'),
    ('t', '\t'), ('v', '\x0b')]

/-- Which escapes a text has besides letters. -/
structure Kind where
  /-- Octal digits follow a zero, and there are up to three of them behind it. Otherwise there are
  up to three in all. -/
  zero : Bool
  /-- The escape `c` ends all output. -/
  ends : Bool
  /-- Hexadecimal digits follow an `x`. -/
  hex : Bool

/-- A text with its escapes resolved, and whether an escape ends all output. Every step takes a
character, so the length of the text suffices for `steps`. -/
def resolve (kind : Kind) : Nat → List Char → List Char × Bool
  | 0, _ | _, [] => ([], false)
  | steps + 1, '\\' :: c :: rest =>
    let followed (d : Char) (rest : List Char) : List Char × Bool :=
      let (more, ends) := resolve kind steps rest
      (d :: more, ends)
    if kind.ends && c = 'c' then ([], true)
    else
      match letters.lookup c with
      | some d => followed d rest
      | none =>
        if (if kind.zero then c = '0' else isOctal c) then
          let (value, rest) := octal 3 0 (if kind.zero then rest else c :: rest)
          followed (Char.ofNat (value % 256)) rest
        else
          match if kind.hex && c = 'x' then rest.head?.bind hexValue? else none with
          | some high =>
            let rest := rest.drop 1
            match rest.head?.bind hexValue? with
            | some low => followed (Char.ofNat (high * 16 + low)) (rest.drop 1)
            | none => followed (Char.ofNat high) rest
          | none => followed '\\' (c :: rest)
  | steps + 1, c :: rest =>
    let (more, ends) := resolve kind steps rest
    (c :: more, ends)

/-- The escapes of a format. -/
def ofFormat (dialect : Dialect) : Kind := ⟨false, dialect = .standalone, dialect = .standalone⟩

/-- The escapes of an argument that is asked to have some. -/
def ofArgument (dialect : Dialect) : Kind := ⟨true, true, dialect = .standalone⟩

end Escapes

namespace Format

/-- What may be wrong with a format or with an argument of one. -/
inductive Fault where
  | noNumber (text : String)
  | notWhole (text : String)
  | outOfRange (text : String)
  | badDirective (text : String)
  | excess (text : String)
  deriving DecidableEq, Repr

/-- The words of a fault. -/
def Fault.message (dialect : Dialect) : Fault → String
  | .noNumber text =>
    match dialect with
    | .builtIn => text ++ ": expected numeric value"
    | .standalone => "'" ++ text ++ "': expected a numeric value"
  | .notWhole text =>
    match dialect with
    | .builtIn => text ++ ": not completely converted"
    | .standalone => "'" ++ text ++ "': value not completely converted"
  | .outOfRange text =>
    match dialect with
    | .builtIn => text ++ ": Numerical result out of range"
    | .standalone => "'" ++ text ++ "': Numerical result out of range"
  | .badDirective text =>
    match dialect with
    | .builtIn =>
      if text.toList.getLast?.any fun c => c = '%' && text ≠ "%" || !(c.isDigit || c = '%') then
        text ++ ": invalid directive"
      else "missing format character"
    | .standalone => text ++ ": invalid conversion specification"
  | .excess text => "warning: ignoring excess arguments, starting with '" ++ text ++ "'"

/-- What a format prints at one place, or what is wrong there. -/
inductive Printed where
  | text (chars : List Char)
  | fault (fault : Fault)
  deriving DecidableEq, Repr

/-- A directive. -/
structure Directive where
  minus : Bool := false
  plus : Bool := false
  space : Bool := false
  alternate : Bool := false
  zeros : Bool := false
  width : Nat := 0
  precision : Option Nat := none
  conversion : Char := 's'
  deriving DecidableEq, Repr

namespace Directive

/-- A text in a field of a directive's width. -/
def padded (d : Directive) (text : List Char) : List Char :=
  let blanks := List.replicate (d.width - text.length) ' '
  if d.minus then text ++ blanks else blanks ++ text

/-- A number in a field, with what stands in front of its digits. -/
def number (d : Directive) (front digits : List Char) (zeros : Bool) : List Char :=
  if zeros && d.zeros && !d.minus then
    front ++ List.replicate (d.width - front.length - digits.length) '0' ++ digits
  else d.padded (front ++ digits)

def text (d : Directive) (chars : List Char) : List Char :=
  d.padded (match d.precision with
    | some n => chars.take n
    | none => chars)

/-- The sign in front of a number. -/
def sign (d : Directive) (negative : Bool) : List Char :=
  if negative then ['-'] else if d.plus then ['+'] else if d.space then [' '] else []

/-- The digits of a whole number, no fewer than the precision. -/
def digits (d : Directive) (base n : Nat) : List Char :=
  let written := if n = 0 && d.precision = some 0 then [] else Nat.toDigits base n
  List.replicate (d.precision.getD 1 - written.length) '0' ++ written

/-- A whole number. Those without a sign are written modulo `2 ^ 64`. -/
def whole (d : Directive) (n : Int) : List Char :=
  let zeros := d.precision.isNone
  let unsigned := (n % Nat.pow 2 64).toNat
  match d.conversion with
  | 'u' => d.number [] (d.digits 10 unsigned) zeros
  | 'o' =>
    let digits := d.digits 8 unsigned
    d.number [] (if d.alternate && digits.head? ≠ some '0' then '0' :: digits else digits) zeros
  | 'x' =>
    d.number (if d.alternate && unsigned ≠ 0 then ['0', 'x'] else []) (d.digits 16 unsigned) zeros
  | 'X' =>
    d.number (if d.alternate && unsigned ≠ 0 then ['0', 'X'] else [])
      ((d.digits 16 unsigned).map Char.toUpper) zeros
  | _ => d.number (d.sign (n < 0)) (d.digits 10 n.natAbs) zeros

end Directive

/-! ## Numbers with a point -/

/-- A number with a sign: a quotient of natural numbers, or a word. -/
inductive Real where
  | ratio (negative : Bool) (num den : Nat)
  | word (negative : Bool) (word : String)
  deriving DecidableEq, Repr

/-- The number nearest to a quotient that has so many bits, of two the even one. -/
def nearest (bits num den : Nat) : Nat × Nat :=
  if num = 0 || den = 0 then (0, 1)
  else
    let e : Int := (num.log2 : Int) - den.log2 - bits
    let (n, d) := Binary64.scaled num den e
    let e := if Nat.pow 2 bits ≤ n / d then e + 1 else e
    let (n, d) := Binary64.scaled num den e
    let m := Binary64.divRound n d
    if 0 ≤ e then (m * Nat.pow 2 e.toNat, 1) else (m, Nat.pow 2 (-e).toNat)

/-- So many digits, in powers of ten below the first one, of a number other than zero: the digits as
one number, and the power of the first. -/
def leading (digits num den : Nat) : Nat × Int :=
  let guess : Int := ((num.log2 : Int) - den.log2) * 30103 / 100000
  let scaled (power : Int) : Nat × Nat :=
    let shift : Int := digits - 1 - power
    if 0 ≤ shift then (num * Nat.pow 10 shift.toNat, den)
    else (num, den * Nat.pow 10 (-shift).toNat)
  let fits (power : Int) : Bool :=
    let (n, d) := scaled power
    Nat.pow 10 (digits - 1) * d ≤ n && n < Nat.pow 10 digits * d
  let power := ([guess - 1, guess, guess + 1, guess + 2].find? fits).getD guess
  let (n, d) := scaled power
  let m := Binary64.divRound n d
  if m = Nat.pow 10 digits then (Nat.pow 10 (digits - 1), power + 1) else (m, power)

/-- Digits with a point before the last `places` of them. -/
def pointed (places n : Nat) (alternate : Bool) : List Char :=
  if places = 0 then Nat.toDigits 10 n ++ if alternate then ['.'] else []
  else Binary64.pointed places n

/-- An exponent, with a sign and two digits at least. -/
def exponent (letter : Char) (power : Int) : List Char :=
  let digits := Nat.toDigits 10 power.natAbs
  letter :: (if power < 0 then '-' else '+') :: (List.replicate (2 - digits.length) '0' ++ digits)

/-- A text without the zeros behind its point, nor a point at its end. -/
def trimmed (digits : List Char) : List Char :=
  if '.' ∈ digits then
    let rest := digits.reverse.dropWhile (· = '0')
    (if rest.head? = some '.' then rest.drop 1 else rest).reverse
  else digits

/-- The digits of a quotient with a point in a fixed place. -/
def fixedDigits (places num den : Nat) (alternate : Bool) : List Char :=
  pointed places (Binary64.divRound (num * Nat.pow 10 places) den) alternate

/-- The digits of a quotient with a power of ten. -/
def scientific (places num den : Nat) (letter : Char) (alternate strip : Bool) : List Char :=
  let (m, power) := if num = 0 then (0, 0) else leading (places + 1) num den
  let digits := pointed places m alternate
  (if strip then trimmed digits else digits) ++ exponent letter power

/-- A number with a point as a directive has it written. -/
def Directive.real (d : Directive) (x : Real) : List Char :=
  let letter := if d.conversion.isUpper then 'E' else 'e'
  let places := d.precision.getD 6
  match x with
  | .word negative word =>
    let word := word.toList
    d.number (d.sign negative) (if d.conversion.isUpper then word.map Char.toUpper else word) false
  | .ratio negative num den =>
    let digits := match d.conversion.toLower with
      | 'f' => fixedDigits places num den d.alternate
      | 'e' => scientific places num den letter d.alternate false
      | _ =>
        let places := Nat.max 1 places
        let power := if num = 0 then 0 else (leading places num den).2
        if -4 ≤ power && power < places then
          let digits := fixedDigits ((places : Int) - 1 - power).toNat num den d.alternate
          if d.alternate then digits else trimmed digits
        else scientific (places - 1) num den letter d.alternate !d.alternate
    d.number (d.sign negative) digits true

/-! ## Reading arguments -/

/-- An argument read as a number, with what is wrong with it. -/
structure Read (α : Type) where
  value : α
  fault : Option Fault := none

/-- The digits of a base at the front of a text, as a number, and what follows them. -/
def digitsOf (base : Nat) (cs : List Char) : Option Nat × List Char :=
  let isDigit (c : Char) : Bool := (Escapes.hexValue? c).any (· < base)
  let digits := cs.takeWhile isDigit
  (if digits.isEmpty then none
    else some (digits.foldl (fun n c => n * base + (Escapes.hexValue? c).getD 0) 0),
    cs.dropWhile isDigit)

/-- The character behind a quote that an argument starts with, as a number. -/
def quotedValue? (text : String) : Option Int :=
  match text.toList with
  | '\'' :: rest | '"' :: rest => some ((rest.headD '\x00').toNat)
  | _ => none

/-- A whole number as C writes it: decimal, octal behind a zero, or hexadecimal behind `0x`. -/
def readWhole (unsigned : Bool) (text : String) : Read Int :=
  match quotedValue? text with
  | some n => ⟨n, none⟩
  | none =>
    if text.isEmpty then ⟨0, none⟩
    else
      let (negative, rest) :=
        Binary64.takeSign (text.toList.dropWhile fun c => c = ' ' || ('\t' ≤ c && c ≤ '\r'))
      let (value, rest) := match rest with
        | '0' :: x :: digits =>
          if (x = 'x' || x = 'X') then
            match digitsOf 16 digits with
            | (some n, rest) => (some n, rest)
            | (none, _) => (some 0, x :: digits)
          else digitsOf 8 rest
        | _ => digitsOf 10 rest
      let value? : Option Int := value.map fun n => if negative then -(n : Int) else n
      match value? with
      | none => ⟨0, some (.noNumber text)⟩
      | some n =>
        let clamped : Int :=
          if unsigned then
            if Nat.pow 2 64 ≤ n.natAbs then Nat.pow 2 64 - 1 else n
          else if n < -(Nat.pow 2 63) then -(Nat.pow 2 63)
          else if Nat.pow 2 63 ≤ n then Nat.pow 2 63 - 1
          else n
        if clamped ≠ n then ⟨clamped, some (.outOfRange text)⟩
        else ⟨n, if rest.isEmpty then none else some (.notWhole text)⟩

/-- The exponent at the front of a text, and what follows it. -/
def exponentOf (cs : List Char) : Int × List Char :=
  match cs with
  | e :: rest =>
    let (negative, digits) := Binary64.takeSign rest
    match if e = 'e' || e = 'E' then digitsOf 10 digits else (none, []) with
    | (some n, rest) => (if negative then -(n : Int) else n, rest)
    | (none, _) => (0, cs)
  | [] => (0, cs)

/-- A number with a point, as near as so many bits allow. -/
def readReal (dialect : Dialect) (text : String) : Read Real :=
  let zero : Real := .ratio false 0 1
  match quotedValue? text with
  | some n => ⟨.ratio false n.toNat 1, none⟩
  | none =>
    if text.isEmpty then ⟨zero, none⟩
    else
      let (negative, rest) :=
        Binary64.takeSign (text.toList.dropWhile fun c => c = ' ' || ('\t' ≤ c && c ≤ '\r'))
      let ended (value : Real) (rest : List Char) : Read Real :=
        ⟨value, if rest.isEmpty then none else some (.notWhole text)⟩
      let lower := rest.map Char.toLower
      if "infinity".toList.isPrefixOf lower then ended (.word negative "inf") (rest.drop 8)
      else if "inf".toList.isPrefixOf lower then ended (.word negative "inf") (rest.drop 3)
      else if "nan".toList.isPrefixOf lower then ended (.word negative "nan") (rest.drop 3)
      else
        let whole := rest.takeWhile Char.isDigit
        let rest := rest.dropWhile Char.isDigit
        let (fraction, rest) := match rest with
          | '.' :: more =>
            if whole.isEmpty && !(more.head?.any Char.isDigit) then ([], rest)
            else (more.takeWhile Char.isDigit, more.dropWhile Char.isDigit)
          | _ => ([], rest)
        if whole.isEmpty && fraction.isEmpty then ⟨zero, some (.noNumber text)⟩
        else
          let (power, rest) := exponentOf rest
          let n := Binary64.ofDigits (whole ++ fraction)
          let power := power - fraction.length
          match dialect with
          | .builtIn =>
            let x := Binary64.ofDecimal negative n power
            if x.isInfinite then ⟨.word negative "inf", some (.outOfRange text)⟩
            else ended (.ratio negative x.ratio.1 x.ratio.2) rest
          | .standalone =>
            if 5000 < power.natAbs then ⟨.word negative "inf", some (.outOfRange text)⟩
            else
              let (num, den) :=
                if 0 ≤ power then nearest 64 (n * Nat.pow 10 power.toNat) 1
                else nearest 64 n (Nat.pow 10 (-power).toNat)
              ended (.ratio negative num den) rest

/-! ## Formats -/

/-- The flags of a directive, and what follows them. -/
def flags (d : Directive) : List Char → Directive × List Char
  | '-' :: rest => flags { d with minus := true } rest
  | '+' :: rest => flags { d with plus := true } rest
  | ' ' :: rest => flags { d with space := true } rest
  | '#' :: rest => flags { d with alternate := true } rest
  | '0' :: rest => flags { d with zeros := true } rest
  | rest => (d, rest)

/-- A format under way: the arguments that are left, and what was printed, the last first. -/
structure Progress where
  arguments : List String
  printed : List Printed := []
  /-- All output has ended. -/
  ended : Bool := false

namespace Progress

def say (p : Progress) (chars : List Char) : Progress :=
  if chars.isEmpty then p else { p with printed := .text chars :: p.printed }

/-- Takes an argument read in some way. -/
def take {α : Type} (p : Progress) (read : String → Read α) : α × Progress :=
  let found := read (p.arguments.headD "")
  let printed := match found.fault with
    | some fault => .fault fault :: p.printed
    | none => p.printed
  (found.value, { p with arguments := p.arguments.drop 1, printed })

/-- A number of columns, written or taken from the arguments. -/
def columns (p : Progress) : List Char → Option Int × Progress × List Char
  | '*' :: rest =>
    let (n, p) := p.take (readWhole false)
    (some n, p, rest)
  | rest => ((digitsOf 10 rest).1.map fun n => (n : Int), p, (digitsOf 10 rest).2)

/-- A directive, from behind its percent sign. -/
def directive (p : Progress) (dialect : Dialect) (src : List Char) : Progress × List Char :=
  let (d, rest) := flags {} src
  let (width, p, rest) := p.columns rest
  let d := match width with
    | some n => { d with width := n.natAbs, minus := d.minus || n < 0 }
    | none => d
  let (d, p, rest) := match rest with
    | '.' :: rest =>
      let (n, p, rest) := p.columns rest
      let precision := match n with
        | some n => if n < 0 then none else some n.toNat
        | none => some 0
      ({ d with precision }, p, rest)
    | rest => (d, p, rest)
  let rest := match dialect with
    | .standalone => rest.dropWhile (· ∈ ['h', 'l', 'L', 'j', 'z', 't'])
    | .builtIn => rest
  let written (rest : List Char) : String :=
    String.ofList ('%' :: src.take (src.length - rest.length))
  let bad (rest : List Char) : Progress × List Char :=
    ({ p with printed := .fault (.badDirective (written rest)) :: p.printed, ended := true }, rest)
  match rest with
  | [] => bad []
  | c :: rest =>
    let d := { d with conversion := c }
    let text (p : Progress) : String := p.arguments.headD ""
    if c = 's' then
      ({ p.say (d.text (text p).toList) with arguments := p.arguments.drop 1 }, rest)
    else if c = 'c' then
      let first := (text p).toList.headD '\x00'
      ({ p.say (d.padded [first]) with arguments := p.arguments.drop 1 }, rest)
    else if c = 'b' then
      let chars := (text p).toList
      let (out, ends) := Escapes.resolve (Escapes.ofArgument dialect) chars.length chars
      ({ p.say (d.text out) with arguments := p.arguments.drop 1, ended := ends }, rest)
    else if c ∈ ['d', 'i', 'o', 'u', 'x', 'X'] then
      let (n, p) := p.take (readWhole (c ∉ ['d', 'i']))
      (p.say (d.whole n), rest)
    else if c ∈ ['e', 'E', 'f', 'F', 'g', 'G'] then
      let (x, p) := p.take (readReal dialect)
      (p.say (d.real x), rest)
    else bad rest

/-- One pass of a format. Every step takes a character, so the length of the format suffices for
`steps`. -/
def pass (dialect : Dialect) : Nat → List Char → Progress → Progress
  | 0, _, p | _, [], p => p
  | steps + 1, '%' :: '%' :: rest, p => pass dialect steps rest (p.say ['%'])
  | steps + 1, '%' :: rest, p =>
    let (p, rest) := p.directive dialect rest
    if p.ended then p else pass dialect steps rest p
  | steps + 1, src, p =>
    let piece := src.takeWhile (· ≠ '%')
    let (out, ends) := Escapes.resolve (Escapes.ofFormat dialect) piece.length piece
    if ends then { p.say out with ended := true }
    else pass dialect steps (src.drop piece.length) (p.say out)

/-- A format used until no argument is left. Every pass but the last takes an argument. -/
def passes (dialect : Dialect) (format : List Char) : Nat → Progress → Progress
  | 0, p => p
  | n + 1, p =>
    let after := pass dialect (format.length + 1) format p
    if after.ended || after.arguments.isEmpty then after
    else if after.arguments.length = p.arguments.length then
      match dialect with
      | .builtIn => after
      | .standalone =>
        { after with printed := .fault (.excess (after.arguments.headD "")) :: after.printed }
    else passes dialect format n after

end Progress

/-- What a format prints for arguments. -/
def print (dialect : Dialect) (format : String) (arguments : List String) : List Printed :=
  (Progress.passes dialect format.toList (arguments.length + 1) { arguments }).printed.reverse

/-- The status of a format that printed something: of an argument that is no number it is 1, of a
directive that is none it is 2 in the shell's own dialect. -/
def status (dialect : Dialect) (printed : List Printed) : Nat :=
  printed.foldl (fun n p => match p with
    | .fault (.badDirective _) => Nat.max n (if dialect = .builtIn then 2 else 1)
    | .fault (.excess _) | .text _ => n
    | .fault _ => Nat.max n 1) 0

end Format

end PodMesh.Host
