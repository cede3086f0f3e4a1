import PodMesh.Text.Property

/-!
# Quoted text

A text between double quotes, as messages show it. Quotes and backslashes are escaped,
and so is every character that would not show or would join the one before it.
-/

namespace PodMesh.Text

/-- The characters that leave nothing to see in their own place: all that are no signs, but for the
space, all that may be shown as nothing, and the marks that join the character before. -/
def hidden : CharSet :=
  .diff
    (.unions [Category.charsOf [.cc, .cf, .cs, .co, .cn, .zs, .zl, .zp], Property.defaultIgnorable,
      .inter (Category.charsOf [.mn, .mc, .me]) Property.graphemeExtend])
    (.one ' ')

/-- Does a character leave nothing to see in its own place? Of ASCII, only the controls do. -/
def isHidden (c : Char) : Bool := if c < '\x7f' then c < ' ' else hidden.mem c

/-- One character of a quoted text. -/
def quoteChar (c : Char) : List Char :=
  if c = '\x00' then ['\\', '0']
  else if c = '\t' then ['\\', 't']
  else if c = '\n' then ['\\', 'n']
  else if c = '\r' then ['\\', 'r']
  else if c = '"' then ['\\', '"']
  else if c = '\\' then ['\\', '\\']
  else if isHidden c then ['\\', 'u', '{'] ++ Nat.toDigits 16 c.toNat ++ ['}']
  else [c]

/-- The text between quotes. -/
def quote (cs : List Char) : List Char := '"' :: cs.flatMap quoteChar ++ ['"']

end PodMesh.Text
