/-!
# Texts as bytes

A file or a pipe delivers bytes. Read as UTF-8 they are a sequence of symbols: a
character, or a few bytes that belong to none. Where bytes go wrong, the longest
start of a character that they could still be makes one stray symbol, and reading
goes on behind it.
-/

namespace PodMesh.Text

/-- What bytes hold at one place: a character, or bytes that belong to no character. -/
inductive Symbol where
  | char (c : Char)
  | stray (bytes : List UInt8)
  deriving DecidableEq, Repr

/-- The number of bytes a symbol takes. -/
def Symbol.byteSize : Symbol → Nat
  | .char c => c.utf8Size
  | .stray bytes => bytes.length

/-- The symbol's character, if it is one. -/
def Symbol.char? : Symbol → Option Char
  | .char c => some c
  | .stray _ => none

/-- The symbols of a text that is known to hold characters only. -/
def symbols (cs : List Char) : List Symbol :=
  cs.map .char

/-- How a lead byte goes on: the payload it brings, how many bytes follow, and the range of the
first of them, which rules out overlong forms, surrogates and numbers above U+10FFFF. -/
def lead? (b : UInt8) : Option (Nat × Nat × UInt8 × UInt8) :=
  if 0xC2 ≤ b && b ≤ 0xDF then some (b.toNat - 0xC0, 1, 0x80, 0xBF)
  else if b = 0xE0 then some (0, 2, 0xA0, 0xBF)
  else if b = 0xED then some (0xD, 2, 0x80, 0x9F)
  else if 0xE1 ≤ b && b ≤ 0xEF then some (b.toNat - 0xE0, 2, 0x80, 0xBF)
  else if b = 0xF0 then some (0, 3, 0x90, 0xBF)
  else if 0xF1 ≤ b && b ≤ 0xF3 then some (b.toNat - 0xF0, 3, 0x80, 0xBF)
  else if b = 0xF4 then some (4, 3, 0x80, 0x8F)
  else none

/-- Where the reader stands: between characters, or inside one with the bytes read so far (the
last first), the payload they carry, how many bytes are owed and the range of the next. -/
inductive Decoder where
  | between
  | inside (taken : List UInt8) (payload owed : Nat) (low high : UInt8)

/-- One byte read between characters. -/
def Decoder.start (b : UInt8) : List Symbol × Decoder :=
  if b < 0x80 then ([.char (Char.ofNat b.toNat)], .between)
  else
    match lead? b with
    | some (payload, owed, low, high) => ([], .inside [b] payload owed low high)
    | none => ([.stray [b]], .between)

/-- One byte read: the symbols it completes, and where the reader stands then. -/
def Decoder.feed (b : UInt8) : Decoder → List Symbol × Decoder
  | .between => start b
  | .inside taken payload owed low high =>
    if low ≤ b && b ≤ high then
      let payload := payload * 64 + (b.toNat - 0x80)
      if owed ≤ 1 then ([.char (Char.ofNat payload)], .between)
      else ([], .inside (b :: taken) payload (owed - 1) 0x80 0xBF)
    else
      let (next, state) := start b
      (.stray taken.reverse :: next, state)

/-- The symbols of a sequence of bytes. -/
def decode (bytes : List UInt8) : List Symbol :=
  go .between bytes
where
  go : Decoder → List UInt8 → List Symbol
    | .between, [] => []
    | .inside taken _ _ _ _, [] => [.stray taken.reverse]
    | state, b :: rest =>
      let (next, state) := state.feed b
      next ++ go state rest

/-- The characters of a sequence of bytes, with U+FFFD in place of every stray symbol. -/
def lossy (bytes : List UInt8) : List Char :=
  (decode bytes).map fun s => s.char?.getD '\ufffd'

/-- The bytes of a text. -/
def encode (cs : List Char) : List UInt8 :=
  cs.flatMap String.utf8EncodeChar

end PodMesh.Text
