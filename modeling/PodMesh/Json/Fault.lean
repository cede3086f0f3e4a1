import PodMesh.Binary64.Shortest
import PodMesh.Pod
import PodMesh.Text.Quoted

/-!
# Faults of documents

Why a JSON document is refused. It may break off, it may be no JSON, or it may be JSON
that does not say what was expected. A document is read in order and the first fault
is the one reported.
-/

namespace PodMesh.Json

/-- What was being read. -/
inductive Part where
  | value
  | string
  | list
  | object
  deriving DecidableEq, Repr

def Part.text : Part → String
  | .value => "a value"
  | .string => "a string"
  | .list => "a list"
  | .object => "an object"

/-- What stands where something else was expected. -/
inductive Found where
  | null
  | boolean (value : Bool)
  | integer (value : Int)
  | float (value : Binary64)
  | string (value : List Char)
  | list
  | object
  deriving DecidableEq, Repr

/-- Numbers are written positionally up to sixteen digits before the point and four zeros behind
it. -/
def numberLayout : Binary64.Layout := { maxWhole := 16, maxZeros := 4 }

/-- The text of a number. -/
def numberText (x : Binary64) : List Char := numberLayout.text x

/-- The text of an integer. -/
def integerText (n : Int) : String :=
  (if n < 0 then "-" else "") ++ decimal n.natAbs

def Found.text : Found → String
  | .null => "null"
  | .boolean value => "boolean `" ++ (if value then "true" else "false") ++ "`"
  | .integer value => "integer `" ++ integerText value ++ "`"
  | .float value => "floating point `" ++ String.ofList (numberText value) ++ "`"
  | .string value => "string " ++ String.ofList (Text.quote value)
  | .list => "sequence"
  | .object => "map"

/-- Why a document is refused. -/
inductive Fault where
  /-- The document ends inside something. -/
  | ends (part : Part)
  | expectedValue
  | expectedWord
  | expectedColon
  | expectedListEnd
  | expectedObjectEnd
  | expectedKey
  | trailingComma
  | trailingCharacters
  | controlCharacter
  | badEscape
  | unfinishedEscape
  | loneSurrogate
  | badCharacter
  | badNumber
  | numberTooLarge
  | missingField (name : String)
  | repeatedField (name : String)
  | unknownName (name : List Char) (known : List String)
  | wrongKind (found : Found) (expected : String)
  | wrongValue (found : Found) (expected : String)
  | wrongLength (length : Nat) (expected : String)
  | badAddress
  deriving DecidableEq, Repr

/-- The three classes of faults. -/
inductive Fault.Class where
  | eof
  | grammar
  | data
  deriving DecidableEq, Repr

namespace Fault

def kind : Fault → Class
  | .ends _ => .eof
  | .missingField _ | .repeatedField _ | .unknownName .. | .wrongKind .. | .wrongValue ..
  | .wrongLength .. | .badAddress => .data
  | _ => .grammar

/-- Names a choice can be made from. -/
def choices : List String → String
  | [] => "there are no variants"
  | [a] => "expected `" ++ a ++ "`"
  | [a, b] => "expected `" ++ a ++ "` or `" ++ b ++ "`"
  | names => "expected one of " ++ ", ".intercalate (names.map fun n => "`" ++ n ++ "`")

/-- What is wrong with a document, as it is reported but for the place: the line and the column that
follow these words are left out. -/
def message : Fault → String
  | .ends part => "EOF while parsing " ++ part.text
  | .expectedValue => "expected value"
  | .expectedWord => "expected ident"
  | .expectedColon => "expected `:`"
  | .expectedListEnd => "expected `,` or `]`"
  | .expectedObjectEnd => "expected `,` or `\x7d`"
  | .expectedKey => "key must be a string"
  | .trailingComma => "trailing comma"
  | .trailingCharacters => "trailing characters"
  | .controlCharacter => "control character (\\u0000-\\u001F) found while parsing a string"
  | .badEscape => "invalid escape"
  | .unfinishedEscape => "unexpected end of hex escape"
  | .loneSurrogate => "lone leading surrogate in hex escape"
  | .badCharacter => "invalid unicode code point"
  | .badNumber => "invalid number"
  | .numberTooLarge => "number out of range"
  | .missingField name => "missing field `" ++ name ++ "`"
  | .repeatedField name => "duplicate field `" ++ name ++ "`"
  | .unknownName name known =>
    "unknown variant `" ++ String.ofList name ++ "`, " ++ choices known
  | .wrongKind found expected => "invalid type: " ++ found.text ++ ", expected " ++ expected
  | .wrongValue found expected => "invalid value: " ++ found.text ++ ", expected " ++ expected
  | .wrongLength length expected =>
    "invalid length " ++ decimal length ++ ", expected " ++ expected
  | .badAddress => "invalid IP address syntax"

end Fault

end PodMesh.Json
