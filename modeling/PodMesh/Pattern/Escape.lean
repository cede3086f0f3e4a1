import PodMesh.Address
import PodMesh.Pattern.Expression
import PodMesh.Pattern.Notation
import PodMesh.Text.Line

/-!
# Escapes

What a backslash and the characters behind it stand for: a character, a set of characters
or an assertion. A sign of the notation stands for itself, and so does any other character
of ASCII that is not a letter, a digit or an angle bracket.
-/

namespace PodMesh.Pattern

open Text (CharSet)

/-- What an escape stands for. -/
inductive Escape where
  | char (c : Char)
  | set (set : CharSet)
  | look (assertion : Assertion)
  deriving DecidableEq, Repr

/-! ## Characters by their numbers -/

def isHexDigit (c : Char) : Bool := c.isDigit || ('a' ≤ c && c ≤ 'f') || ('A' ≤ c && c ≤ 'F')

def hexValue (digits : List Char) : Option Nat := Address.ofBase? 16 digits

/-- The character of a number. -/
def charOf? (n : Nat) : Option Char := if h : n.isValidChar then some ⟨n.toUInt32, by
  rcases h with h | ⟨h, h'⟩
  · left; simp only [Nat.toUInt32_eq, UInt32.toNat_ofNat']; omega
  · right; simp only [Nat.toUInt32_eq, UInt32.toNat_ofNat']; omega⟩ else none

/-- A character by its number: some digits, or any number of them in braces. Without Unicode, two
digits give a byte, which must be a character. -/
def readHex (flags : Flags) (digits : Nat) (src : List Char) : Except Fault (Escape × List Char) :=
  match flags.skip src with
  | '\x7b' :: rest =>
    match flags.takeBraced? rest with
    | some (inside, rest) =>
      match (if inside.all isHexDigit then hexValue inside >>= charOf? else none) with
      | some c => .ok (.char c, rest)
      | none => .error .badEscape
    | none => .error .badEscape
  | src =>
    let (taken, rest) := flags.take isHexDigit digits src
    match (if taken.length = digits then hexValue taken >>= charOf? else none) with
    | some c =>
      if digits = 2 && !flags.unicode && 0x7f < c.toNat then .error .notText
      else .ok (.char c, rest)
    | none => .error .badEscape

/-! ## Sets by their names -/

/-- The name of a property, and a value if there is one. -/
inductive PropertyName where
  | plain (name : List Char)
  | valued (name value : List Char)
  /-- Any other value. -/
  | unlike (name value : List Char)

/-- The parts of a name in braces, between which an exclamation mark with an equals sign, a colon or
an equals sign stands. The first of these kinds that there is at all divides the name. -/
def PropertyName.ofBraced (text : List Char) : PropertyName :=
  match unlike? text with
  | some (name, value) => .unlike name value
  | none =>
    match (Text.splitOnce ':' text).or (Text.splitOnce '=' text) with
    | some (name, value) => .valued name value
    | none => .plain text
where
  unlike? : List Char → Option (List Char × List Char)
    | '!' :: '=' :: value => some ([], value)
    | c :: rest => (unlike? rest).map fun (name, value) => (c :: name, value)
    | [] => none

/-- The set that a name stands for. -/
def PropertyName.set? : PropertyName → Option CharSet
  | .plain name => named? name
  | .valued name value => valued? name value
  | .unlike name value => valued? name value

/-- A property: one letter, or a name in braces. -/
def readProperty (flags : Flags) (negated : Bool) (src : List Char) :
    Except Fault (Escape × List Char) := do
  let (name, rest) ← match flags.skip src with
    | '\x7b' :: rest =>
      match flags.takeBraced? rest with
      | some (inside, rest) => pure (PropertyName.ofBraced inside, rest)
      | none => throw .badEscape
    | '\\' :: _ | [] => throw .badEscape
    | c :: rest => pure (.plain [c], rest)
  let negated := match name with
    | .unlike .. => !negated
    | _ => negated
  if !flags.unicode then throw .notText
  match name.set? with
  | some set => return (.set ((flags.folded set).complementIf negated), rest)
  | none => throw .unknownProperty

/-- The sets that one letter names; the letter in upper case names the complement. -/
def letterSet (flags : Flags) (negated : Bool) (unicode ascii : CharSet) : Except Fault Escape :=
  if flags.unicode then .ok (.set (unicode.complementIf negated))
  else if negated then .error .notText
  else .ok (.set ascii)

/-! ## Assertions -/

/-- A kind of word boundary in braces, if that is what follows. What starts with neither a letter
nor a dash is a number of repetitions. -/
def readBoundary (flags : Flags) (src : List Char) : Except Fault (Escape × List Char) :=
  match src with
  | '\x7b' :: inside =>
    match flags.skip inside with
    | [] => .error .badCount
    | c :: _ =>
      if !(c.isAlpha || c = '-') then .ok (.look .wordBoundary, src)
      else
        match flags.takeBraced? inside with
        | some (name, rest) =>
          let kind : Option Assertion :=
            [("start", .wordStart), ("end", .wordEnd), ("start-half", .wordStartHalf),
              ("end-half", .wordEndHalf)].lookup (String.ofList name)
          match kind with
          | some kind => .ok (.look kind, rest)
          | none => .error .badEscape
        | none => .error .badEscape
  | _ => .ok (.look .wordBoundary, src)

/-! ## Escapes -/

/-- An escape after its backslash. -/
def readEscape (flags : Flags) : List Char → Except Fault (Escape × List Char)
  | [] => .error .badEscape
  | c :: rest =>
    let letter (negated : Bool) (unicode ascii : CharSet) : Except Fault (Escape × List Char) := do
      return (← letterSet flags negated unicode ascii, rest)
    match c with
    | 'x' => readHex flags 2 rest
    | 'u' => readHex flags 4 rest
    | 'U' => readHex flags 8 rest
    | 'p' => readProperty flags false rest
    | 'P' => readProperty flags true rest
    | 'd' => letter false anyDigit asciiDigit
    | 'D' => letter true anyDigit asciiDigit
    | 's' => letter false blank asciiBlank
    | 'S' => letter true blank asciiBlank
    | 'w' => letter false word asciiWord
    | 'W' => letter true word asciiWord
    | 'a' => .ok (.char '\x07', rest)
    | 'f' => .ok (.char '\x0c', rest)
    | 't' => .ok (.char '\t', rest)
    | 'n' => .ok (.char '\n', rest)
    | 'r' => .ok (.char '\r', rest)
    | 'v' => .ok (.char '\x0b', rest)
    | 'A' => .ok (.look .textStart, rest)
    | 'z' => .ok (.look .textEnd, rest)
    | 'b' => readBoundary flags rest
    | 'B' => .ok (.look .noWordBoundary, rest)
    | '<' => .ok (.look .wordStart, rest)
    | '>' => .ok (.look .wordEnd, rest)
    | c => if c.isAlphanum || 0x7f < c.toNat then .error .badEscape else .ok (.char c, rest)

/-- An escape as an expression. -/
def Escape.expression (flags : Flags) : Escape → Expression
  | .char c => .ofSet (flags.folded (.one c))
  | .set chars => .ofSet chars
  | .look assertion => .look assertion flags.word

end PodMesh.Pattern
