import PodMesh.Json.Number
import PodMesh.Json.Text

/-!
# Values nobody asks for

A value that nobody asks for is passed over. It must be well formed, and it may nest to
any depth: what is open is kept in a list of frames, not in the depth of a recursion.
-/

namespace PodMesh.Json

open PodMesh.Text (Symbol)

/-- What may stand between the tokens of a document. -/
def isBlank (s : Symbol) : Bool :=
  s = .char ' ' || s = .char '\n' || s = .char '\t' || s = .char '\r'

/-- A document without the blanks it starts with. -/
def skipBlank (src : List Symbol) : List Symbol := src.dropWhile isBlank

/-- What follows a word that must come next. -/
def skipWord : List Char → List Symbol → Except Fault (List Symbol)
  | [], src => .ok src
  | _ :: _, [] => .error (.ends .value)
  | c :: word, s :: rest => if s = .char c then skipWord word rest else .error .expectedWord

/-- Goes past the colon behind a key. -/
def skipColon (src : List Symbol) : Except Fault (List Symbol) :=
  match skipBlank src with
  | .char ':' :: rest => .ok rest
  | [] => .error (.ends .object)
  | _ => .error .expectedColon

/-- Something that is open: a list or an object. -/
inductive Frame where
  | list
  | object
  deriving DecidableEq, Repr

def Frame.part : Frame → Part
  | .list => .list
  | .object => .object

def Frame.close : Frame → Char
  | .list => ']'
  | .object => '}'

/-- The fault of something behind an item that neither goes on nor closes. -/
def Frame.endFault : Frame → Fault
  | .list => .expectedListEnd
  | .object => .expectedObjectEnd

/-- Goes to the value of the next item inside an open frame: past its key, in an object. -/
def Frame.skipKey (frame : Frame) (src : List Symbol) : Except Fault (List Symbol) :=
  match frame with
  | .list => .ok src
  | .object =>
    match skipBlank src with
    | .char '"' :: rest => skipText rest >>= skipColon
    | [] => .error (.ends .object)
    | _ => .error .expectedKey

/-- Where the reader stands: before a value, or behind one or an opening bracket. -/
inductive Place where
  | before
  | behind (opening : Bool)
  deriving DecidableEq, Repr

/-- Passes over what is left of a value inside the open frames, the innermost first. Every step
takes a symbol or goes from behind something to before a value, so twice the length of the document
suffices for `steps`. -/
def skipFrames : Nat → Place → List Frame → List Symbol → Except Fault (List Symbol)
  | 0, _, _, _ => .error (.ends .value)
  | steps + 1, .before, frames, src =>
    let next (src : List Symbol) := skipFrames steps (.behind false) frames src
    match skipBlank src with
    | .char 'n' :: rest => skipWord "ull".toList rest >>= next
    | .char 't' :: rest => skipWord "rue".toList rest >>= next
    | .char 'f' :: rest => skipWord "alse".toList rest >>= next
    | .char '"' :: rest => skipText rest >>= next
    | .char '[' :: rest => skipFrames steps (.behind true) (.list :: frames) rest
    | .char '{' :: rest => skipFrames steps (.behind true) (.object :: frames) rest
    | [] => .error (.ends .value)
    | s :: rest =>
      if s = .char '-' || isDigit s then skipNumber (s :: rest) >>= next else .error .expectedValue
  | _, .behind _, [], src => .ok src
  | steps + 1, .behind opening, frame :: frames, src =>
    let item (src : List Symbol) := do
      skipFrames steps .before (frame :: frames) (← frame.skipKey src)
    match skipBlank src with
    | [] => .error (.ends frame.part)
    | s :: rest =>
      if s = .char frame.close then skipFrames steps (.behind false) frames rest
      else if opening then item (s :: rest)
      else if s = .char ',' then item rest
      else .error frame.endFault

/-- What follows a value. -/
def skipValue (src : List Symbol) : Except Fault (List Symbol) :=
  skipFrames (2 * src.length + 2) .before [] src

end PodMesh.Json
