import PodMesh.Json.Format

/-!
# Records

A record is written as an object with all of its fields in order. It is read from an
object, whose members may come in any order and may be strange to the record, or from a
list of the fields' values in order. Fields may be left out if the record says so, and
keep the value of a blank record then.
-/

namespace PodMesh.Json

open PodMesh.Text (Symbol)

/-- One field of a record of type `α`: how its value is written, and how a record takes the value
that is read. -/
structure Field (α : Type) where
  name : String
  required : Bool
  write : α → List Char
  read : α → Reader α

/-- A field from the format of its values. -/
def Field.make {α β : Type} (name : String) (format : Format β) (get : α → β) (set : α → β → α)
    (required : Bool) : Field α where
  name
  required
  write record := format.write (get record)
  read record src := do
    let (value, rest) ← format.read src
    return (set record value, rest)

/-- A record type: what messages call it, its fields, and the record without any of them. -/
structure Record (α : Type) where
  title : String
  blank : α
  fields : List (Field α)

namespace Record

variable {α : Type}

/-! ## Writing -/

def writeField (record : α) (field : Field α) : List Char :=
  writeText field.name.toList ++ ':' :: field.write record

def write (r : Record α) (record : α) : List Char :=
  '{' :: [','].intercalate (r.fields.map (writeField record)) ++ ['}']

/-! ## Reading an object -/

/-- Goes to the key of the next member of an object, past its quote and past the comma in front of
it; none if the object closes instead. -/
def nextMember (first : Bool) (src : List Symbol) : Except Fault (Option (List Symbol)) :=
  let key : List Symbol → Except Fault (Option (List Symbol))
    | .char '"' :: rest => .ok (some rest)
    | _ => .error .expectedKey
  match skipBlank src with
  | [] => .error (.ends .object)
  | .char '}' :: _ => .ok none
  | .char ',' :: rest =>
    if first then .error .expectedKey
    else
      match skipBlank rest with
      | [] => .error (.ends .value)
      | .char '}' :: _ => .error .trailingComma
      | rest => key rest
  | src => if first then key src else .error .expectedObjectEnd

/-- The first field that is required and was not given. -/
def missing? (r : Record α) (seen : List String) : Option String :=
  (r.fields.find? fun f => f.required && f.name ∉ seen).map Field.name

/-- The members of an object. Each takes a symbol, so the length of the document suffices for
`members`. -/
def readMembers (r : Record α) : Nat → Bool → List String → α → Reader α
  | 0, _, _, _, _ => .error (.ends .object)
  | members + 1, first, seen, record, src => do
    match ← nextMember first src with
    | none =>
      match r.missing? seen with
      | some name => throw (.missingField name)
      | none => return (record, (skipBlank src).drop 1)
    | some src =>
      let (key, rest) ← readText src
      match r.fields.find? fun f => f.name.toList = key with
      | some field =>
        if field.name ∈ seen then throw (.repeatedField field.name)
        let (record, rest) ← field.read record (← skipColon rest)
        r.readMembers members false (field.name :: seen) record rest
      | none => r.readMembers members false seen record (← skipValue (← skipColon rest))

/-! ## Reading a list -/

/-- The number of a record's fields in words. -/
def expectation (r : Record α) : String :=
  "struct " ++ r.title ++ " with " ++ decimal r.fields.length ++
    (if r.fields.length = 1 then " element" else " elements")

/-- The values of the fields in order, from the field of some index on. -/
def readValues (r : Record α) : List (Field α) → Nat → α → Reader α
  | [], _, record, src => do return (record, ← Format.endList src)
  | field :: fields, i, record, src => do
    match ← Format.nextItem (i = 0) src with
    | none =>
      if field.required then throw (.wrongLength i r.expectation)
      r.readValues fields (i + 1) record src
    | some src =>
      let (record, rest) ← field.read record src
      r.readValues fields (i + 1) record rest

/-! ## Either -/

def read (r : Record α) : Reader α := fun src =>
  match skipBlank src with
  | .char '{' :: rest => r.readMembers (rest.length + 1) true [] r.blank rest
  | .char '[' :: rest => r.readValues r.fields 0 r.blank rest
  | src => .error (Format.mismatch ("struct " ++ r.title) src)

def format (r : Record α) : Format α := { write := r.write, read := r.read }

end Record

end PodMesh.Json
