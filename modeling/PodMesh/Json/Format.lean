import PodMesh.Json.Skip

/-!
# Formats

A format is a writer and a reader of the values of one type. The writer is compact: it
puts no blank between tokens. The reader allows for blanks, reads one value from the
front of a document, and returns what follows it.

What is not of the kind that is asked for is still read far enough to name it, so a
document that breaks off inside it, or is no document there, is reported as that.
-/

namespace PodMesh.Json

open PodMesh.Text (Symbol)

/-- Reads a value from the front of a document. -/
abbrev Reader (α : Type) := List Symbol → Except Fault (α × List Symbol)

/-- How values of a type are written and read. -/
structure Format (α : Type) where
  write : α → List Char
  read : Reader α

namespace Format

variable {α : Type}

/-- The text of a value, and nothing else. -/
def text (format : Format α) (value : α) : String := String.ofList (format.write value)

/-- Reads a document that holds a value, and nothing else but blanks. -/
def ofDocument (format : Format α) (src : List Symbol) : Except Fault α :=
  match format.read src with
  | .error fault => .error fault
  | .ok (value, rest) =>
    if (skipBlank rest).isEmpty then .ok value else .error .trailingCharacters

/-! ## Kinds of value -/

/-- The fault of something that is not of the expected kind. -/
def mismatch (expected : String) (src : List Symbol) : Fault :=
  let found (f : Found) : Fault := .wrongKind f expected
  let after (f : Found) : Except Fault (List Symbol) → Fault
    | .ok _ => found f
    | .error fault => fault
  match skipBlank src with
  | [] => .ends .value
  | .char 'n' :: rest => after .null (skipWord "ull".toList rest)
  | .char 't' :: rest => after (.boolean true) (skipWord "rue".toList rest)
  | .char 'f' :: rest => after (.boolean false) (skipWord "alse".toList rest)
  | .char '"' :: rest =>
    match readText rest with
    | .ok (cs, _) => found (.string cs)
    | .error fault => fault
  | .char '[' :: _ => found .list
  | .char '{' :: _ => found .object
  | s :: rest =>
    if s = .char '-' || isDigit s then
      match readNumber (s :: rest) with
      | .ok (.natural n, _) => found (.integer n)
      | .ok (.negative n, _) => found (.integer (-n))
      | .ok (.binary x, _) => found (.float x)
      | .error fault => fault
    else .expectedValue

/-- Reads a string; anything else is a mismatch. -/
def readString (expected : String) : Reader (List Char) := fun src =>
  match skipBlank src with
  | .char '"' :: rest => readText rest
  | src => .error (mismatch expected src)

/-- Reads a number; anything else is a mismatch. -/
def readNumeric (expected : String) : Reader Number := fun src =>
  match skipBlank src with
  | [] => .error (mismatch expected [])
  | s :: rest =>
    if s = .char '-' || isDigit s then readNumber (s :: rest)
    else .error (mismatch expected (s :: rest))

/-- Strings. -/
def string : Format String where
  write s := writeText s.toList
  read src := do
    let (cs, rest) ← readString "a string" src
    return (String.ofList cs, rest)

/-- Truth values. -/
def bool : Format Bool where
  write b := (if b then "true" else "false").toList
  read src :=
    match skipBlank src with
    | .char 't' :: rest => do return (true, ← skipWord "rue".toList rest)
    | .char 'f' :: rest => do return (false, ← skipWord "alse".toList rest)
    | src => .error (mismatch "a boolean" src)

/-- Integers of sixteen bits. -/
def word : Format UInt16 where
  write n := Nat.toDigits 10 n.toNat
  read src := do
    match ← readNumeric "u16" src with
    | (.natural n, rest) =>
      if n < Nat.pow 2 16 then return (UInt16.ofNat n, rest)
      else throw (.wrongValue (.integer n) "u16")
    | (.negative n, _) => throw (.wrongValue (.integer (-n)) "u16")
    | (.binary x, _) => throw (.wrongKind (.float x) "u16")

/-- Binary numbers. What is no number is written as null, which is not read back. -/
def float : Format Binary64 where
  write x := if x.isFinite then numberText x else "null".toList
  read src := do
    match ← readNumeric "f64" src with
    | (.natural n, rest) => return (Binary64.ofNat n, rest)
    | (.negative n, rest) => return ((Binary64.ofNat n).neg, rest)
    | (.binary x, rest) => return (x, rest)

/-- Addresses, as strings. -/
def address : Format Address where
  write a := writeText a.text.toList
  read src := do
    let (cs, rest) ← readString "IP address" src
    match Address.ofText? (String.ofList cs) with
    | some a => return (a, rest)
    | none => throw .badAddress

/-- Values that may be missing, written as null. -/
def nullable (format : Format α) : Format (Option α) where
  write
    | none => "null".toList
    | some value => format.write value
  read src :=
    match skipBlank src with
    | .char 'n' :: rest => do return (none, ← skipWord "ull".toList rest)
    | src => do
      let (value, rest) ← format.read src
      return (some value, rest)

/-! ## Lists -/

/-- Goes to the next item of a list, past the comma in front of it; none if the list closes
instead. -/
def nextItem (first : Bool) (src : List Symbol) : Except Fault (Option (List Symbol)) :=
  match skipBlank src with
  | [] => .error (.ends .list)
  | .char ']' :: _ => .ok none
  | .char ',' :: rest =>
    if first then .ok (some (.char ',' :: rest))
    else
      match skipBlank rest with
      | [] => .error (.ends .value)
      | .char ']' :: _ => .error .trailingComma
      | rest => .ok (some rest)
  | src => if first then .ok (some src) else .error .expectedListEnd

/-- Goes past the end of a list that must end here. -/
def endList (src : List Symbol) : Except Fault (List Symbol) :=
  match skipBlank src with
  | [] => .error (.ends .list)
  | .char ']' :: rest => .ok rest
  | .char ',' :: rest =>
    match skipBlank rest with
    | .char ']' :: _ => .error .trailingComma
    | _ => .error .trailingCharacters
  | _ => .error .trailingCharacters

/-- The items of a list. Each takes a symbol, so the length of the document suffices for `items`. -/
def readItems (read : Reader α) : Nat → Bool → Reader (List α)
  | 0, _, _ => .error (.ends .list)
  | items + 1, first, src => do
    match ← nextItem first src with
    | none => return ([], ← endList src)
    | some src =>
      let (value, rest) ← read src
      let (values, rest) ← readItems read items false rest
      return (value :: values, rest)

/-- Lists of values of one format. -/
def list (format : Format α) : Format (List α) where
  write values := '[' :: [','].intercalate (values.map format.write) ++ [']']
  read src :=
    match skipBlank src with
    | .char '[' :: rest => readItems format.read (rest.length + 1) true rest
    | src => .error (mismatch "a sequence" src)

/-! ## Names -/

/-- The value that a name stands for. -/
def ofName (names : List (String × α)) (name : List Char) : Except Fault α :=
  match names.find? fun (known, _) => known.toList = name with
  | some (_, value) => .ok value
  | none => .error (.unknownName name (names.map (·.1)))

/-- Values of an enumeration, each a string with its name. An object of one member, with the name
for its key and null for its value, is read as well. -/
def choice (names : List (String × α)) (name : α → String) : Format α where
  write value := writeText (name value).toList
  read src :=
    match skipBlank src with
    | [] => .error (.ends .value)
    | .char '"' :: rest => do
      let (cs, rest) ← readText rest
      return (← ofName names cs, rest)
    | .char '{' :: rest => do
      let (cs, rest) ← readString "variant identifier" rest
      let value ← ofName names cs
      let rest ← skipColon rest
      let rest ← match skipBlank rest with
        | .char 'n' :: rest => skipWord "ull".toList rest
        | src => throw (mismatch "unit" src)
      match skipBlank rest with
      | .char '}' :: rest => return (value, rest)
      | [] => throw (.ends .object)
      | _ => throw .expectedValue
    | _ => .error .expectedValue

end Format

end PodMesh.Json
