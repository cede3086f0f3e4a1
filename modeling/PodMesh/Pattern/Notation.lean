import PodMesh.Pattern.Property
import PodMesh.Text.Case

/-!
# The notation of patterns

What reading a pattern shares among its parts: why a pattern is refused, the flags that a
pattern can change on the way, and how blanks and comments are passed over where they do
not count.
-/

namespace PodMesh.Pattern

open Text (CharSet)

/-- Why a written pattern is refused. -/
inductive Fault where
  | unclosedGroup
  | unopenedGroup
  | nothingToRepeat
  | badCount
  | badEscape
  | unclosedClass
  | badClass
  | badFlags
  | badName
  | lookAround
  | unknownProperty
  /-- It could match a part of a character. -/
  | notText
  | tooDeep
  | tooBig
  deriving DecidableEq, Repr

/-- The kind of a fault. A report of it also shows the pattern, with a mark below the place. That is
left out, and faults that differ in detail only are told alike. -/
def Fault.message : Fault → String
  | .unclosedGroup => "unclosed group"
  | .unopenedGroup => "unopened group"
  | .nothingToRepeat => "repetition operator missing expression"
  | .badCount => "invalid repetition count"
  | .badEscape => "unrecognized escape sequence"
  | .unclosedClass => "unclosed character class"
  | .badClass => "invalid character class range"
  | .badFlags => "unrecognized flag"
  | .badName => "invalid capture group name"
  | .lookAround => "look-around, including look-ahead and look-behind, is not supported"
  | .unknownProperty => "Unicode property not found"
  | .notText => "pattern can match invalid UTF-8"
  | .tooDeep => "exceeds the nest limit"
  | .tooBig => "Compiled regex exceeds size limit of 10485760 bytes."

/-- The settings that a pattern can change on the way. -/
structure Flags where
  anyCase : Bool := false
  multiLine : Bool := false
  dotAll : Bool := false
  unicode : Bool := true
  /-- Repetitions are as short as possible unless a question mark follows them. -/
  reluctant : Bool := false
  /-- Blanks do not count, and comments may be written. -/
  verbose : Bool := false
  /-- A carriage return ends a line. -/
  returns : Bool := false
  deriving DecidableEq, Repr

namespace Flags

/-- The set of words under some flags. -/
def word (flags : Flags) : CharSet := if flags.unicode then Pattern.word else asciiWord

/-- A set, with characters of the other case where case does not count. -/
def folded (flags : Flags) (set : CharSet) : CharSet :=
  if !flags.anyCase then set
  else if flags.unicode then set.anyCase
  else
    let ascii : CharSet := .range 0 0x7f
    .union set (.inter (set.inter ascii).anyCase ascii)

/-! ## Blanks and comments -/

/-- Where verbose, what follows blanks and comments. -/
def skip (flags : Flags) (src : List Char) : List Char :=
  if flags.verbose then go false src else src
where
  go (comment : Bool) : List Char → List Char
    | [] => []
    | c :: rest =>
      if comment then go (c ≠ '\n') rest
      else if Text.isBlank c then go false rest
      else if c = '#' then go true rest
      else c :: rest

/-- Takes characters, but no more than a number of them, as long as they pass a test. Where verbose,
blanks and comments before and between them are left out. -/
def take (flags : Flags) (test : Char → Bool) (n : Nat) (src : List Char) :
    List Char × List Char :=
  go n false src
where
  go : Nat → Bool → List Char → List Char × List Char
    | 0, _, src => ([], src)
    | _, _, [] => ([], [])
    | n + 1, comment, c :: rest =>
      if flags.verbose && (comment || c = '#') then go (n + 1) (c ≠ '\n') rest
      else if flags.verbose && Text.isBlank c then go (n + 1) false rest
      else if test c then
        let (taken, rest) := go n false rest
        (c :: taken, rest)
      else ([], c :: rest)

/-- Takes characters as long as they pass a test. -/
def takeWhile (flags : Flags) (test : Char → Bool) (src : List Char) : List Char × List Char :=
  flags.take test src.length src

/-- Takes what stands before a closing brace, and the brace. -/
def takeBraced? (flags : Flags) (src : List Char) : Option (List Char × List Char) :=
  match flags.takeWhile (· ≠ '\x7d') src with
  | (inside, '\x7d' :: rest) => some (inside, rest)
  | _ => none

/-- The next character that counts, seen from the one before it. Behind the sign of a comment only
blanks are passed over. -/
def peek (flags : Flags) (src : List Char) : Option Char :=
  if flags.verbose then
    let rest := match src.dropWhile Text.isBlank with
      | '#' :: rest => rest.dropWhile Text.isBlank
      | rest => rest
    rest.head?.or src.head?
  else src.head?

end Flags

end PodMesh.Pattern
