import PodMesh.Json.Fault
import PodMesh.Text.Utf8

/-!
# Strings in documents

A string stands between quotes. A quote, a backslash and the control characters are
escaped in it; a few of these have short forms, and any character can be written as
`\u` and four hexadecimal digits, two such escapes making one character above U+FFFF.

Strings that nobody asks for are skipped with less care: their escapes must be well
formed, but need not name characters.
-/

namespace PodMesh.Json

open PodMesh.Text (Symbol)

/-! ## Writing -/

/-- One character of a string. Control characters have their short form or four digits. -/
def writeChar (c : Char) : List Char :=
  if c = '"' then ['\\', '"']
  else if c = '\\' then ['\\', '\\']
  else if c = '\x08' then ['\\', 'b']
  else if c = '\x0c' then ['\\', 'f']
  else if c = '\n' then ['\\', 'n']
  else if c = '\r' then ['\\', 'r']
  else if c = '\t' then ['\\', 't']
  else if c.toNat < 0x20 then
    ['\\', 'u', '0', '0', Nat.digitChar (c.toNat / 16), Nat.digitChar (c.toNat % 16)]
  else [c]

/-- A string between its quotes. -/
def writeText (cs : List Char) : List Char := '"' :: cs.flatMap writeChar ++ ['"']

/-! ## Reading -/

/-- The character that a short escape stands for. -/
def shortEscape? : Char → Option Char
  | '"' => some '"'
  | '\\' => some '\\'
  | '/' => some '/'
  | 'b' => some '\x08'
  | 'f' => some '\x0c'
  | 'n' => some '\n'
  | 'r' => some '\r'
  | 't' => some '\t'
  | _ => none

/-- The fault of an escape that lacks `owed` digits before `rest`: a document that is too short for
them breaks off, whatever it holds. -/
def digitFault (owed : Nat) (rest : List Symbol) : Fault :=
  if (rest.map Symbol.byteSize).foldl (· + ·) 0 < owed then .ends .string else .badEscape

/-- Where a reader stands inside a string. A leading surrogate is kept until its partner has been
read. -/
inductive Cursor where
  | plain
  | escape
  /-- Digits of an escape: their number so far is `4 - owed`. -/
  | digits (lead : Option Nat) (value owed : Nat)
  /-- The backslash of the partner is due. -/
  | partner (lead : Nat)
  /-- The letter of the partner's escape is due. -/
  | partnerLetter (lead : Nat)

/-- Is the number a leading surrogate? -/
def isLead (n : Nat) : Bool := 0xD800 ≤ n && n ≤ 0xDBFF

/-- Is the number a trailing surrogate? -/
def isTrail (n : Nat) : Bool := 0xDC00 ≤ n && n ≤ 0xDFFF

/-- The character above U+FFFF that two surrogates stand for. -/
def joined (lead trail : Nat) : Char :=
  Char.ofNat ((lead - 0xD800) * 0x400 + (trail - 0xDC00) + 0x10000)

/-- Four digits read: the characters they complete, and where the reader stands then. -/
def endDigits (lead : Option Nat) (n : Nat) : Except Fault (List Char × Cursor) :=
  match lead with
  | some lead => if isTrail n then .ok ([joined lead n], .plain) else .error .loneSurrogate
  | none =>
    if isTrail n then .error .loneSurrogate
    else if isLead n then .ok ([], .partner n)
    else .ok ([Char.ofNat n], .plain)

/-- A string after its opening quote, and what follows its closing one. A string with stray bytes
is only refused once it is closed. -/
def readText (src : List Symbol) : Except Fault (List Char × List Symbol) :=
  go [] false .plain src
where
  go (taken : List Char) (stray : Bool) :
      Cursor → List Symbol → Except Fault (List Char × List Symbol)
    | _, [] => .error (.ends .string)
    | .plain, s :: rest =>
      match s with
      | .stray _ => go taken true .plain rest
      | .char c =>
        if c = '"' then if stray then .error .badCharacter else .ok (taken.reverse, rest)
        else if c = '\\' then go taken stray .escape rest
        else if c.toNat < 0x20 then .error .controlCharacter
        else go (c :: taken) stray .plain rest
    | .escape, s :: rest =>
      match s with
      | .char 'u' => go taken stray (.digits none 0 4) rest
      | .char c =>
        match shortEscape? c with
        | some c => go (c :: taken) stray .plain rest
        | none => .error .badEscape
      | .stray _ => .error .badEscape
    | .digits lead value owed, s :: rest =>
      match s.char? >>= Address.digitValue? with
      | none => .error (digitFault owed (s :: rest))
      | some d =>
        let value := value * 16 + d
        if owed ≤ 1 then
          match endDigits lead value with
          | .ok (cs, cursor) => go (cs ++ taken) stray cursor rest
          | .error fault => .error fault
        else go taken stray (.digits lead value (owed - 1)) rest
    | .partner lead, s :: rest =>
      if s = .char '\\' then go taken stray (.partnerLetter lead) rest
      else .error .unfinishedEscape
    | .partnerLetter lead, s :: rest =>
      if s = .char 'u' then go taken stray (.digits (some lead) 0 4) rest
      else .error .unfinishedEscape

/-! ## Skipping -/

/-- What follows a string after its opening quote. -/
def skipText (src : List Symbol) : Except Fault (List Symbol) :=
  go .plain src
where
  go : Cursor → List Symbol → Except Fault (List Symbol)
    | _, [] => .error (.ends .string)
    | .escape, s :: rest =>
      match s with
      | .char 'u' => go (.digits none 0 4) rest
      | .char c => if (shortEscape? c).isSome then go .plain rest else .error .badEscape
      | .stray _ => .error .badEscape
    | .digits lead value owed, s :: rest =>
      if (s.char? >>= Address.digitValue?).isSome then
        go (if owed ≤ 1 then .plain else .digits lead value (owed - 1)) rest
      else .error (digitFault owed (s :: rest))
    | _, s :: rest =>
      match s with
      | .stray _ => go .plain rest
      | .char c =>
        if c = '"' then .ok rest
        else if c = '\\' then go .escape rest
        else if c.toNat < 0x20 then .error .controlCharacter
        else go .plain rest

end PodMesh.Json
