import PodMesh.Text.Utf8

/-!
# Texts of bytes

Programs pass on bytes and do not ask what characters they make up. A text of bytes is
kept as a string that has, for every byte, the character with its number.
-/

namespace PodMesh.Text.Octets

/-- The text of some bytes. -/
def ofBytes (bytes : List UInt8) : String := String.ofList (bytes.map fun b => Char.ofNat b.toNat)

/-- The bytes of a text of bytes. -/
def toBytes (s : String) : List UInt8 := s.toList.map fun c => UInt8.ofNat c.toNat

/-- The bytes of some characters, as a text of bytes. -/
def ofText (s : String) : String :=
  if s.toList.all (·.toNat < 0x80) then s else ofBytes (encode s.toList)

/-- The characters whose bytes these are. -/
def toText (s : String) : String :=
  if s.toList.all (·.toNat < 0x80) then s else String.ofList (lossy (toBytes s))

end PodMesh.Text.Octets
