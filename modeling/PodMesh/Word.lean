import PodMesh.Fault
import PodMesh.Notice

/-!
# Words

What users write for the things of this library, each read as a whole: a word that has
anything strange in it is refused and named in the fault.
-/

namespace PodMesh

/-- The protocol that a word names. -/
def Protocol.read (word : String) : Except Fault Protocol :=
  match Protocol.ofText? word with
  | some p => .ok p
  | none => .error (.badProtocol word)

/-- The kind of address that a word names. -/
def AddressKind.read (word : String) : Except Fault AddressKind :=
  match AddressKind.ofText? word with
  | some k => .ok k
  | none => .error (.badKind word)

/-- The check that a word names. -/
def Check.read (word : String) : Except Fault Check :=
  match Check.ofText? word with
  | some c => .ok c
  | none => .error (.badCheck word)

/-- The identity that a word prints. -/
def Identity.read (word : String) : Except Fault Identity :=
  match Identity.ofText? word with
  | some id => .ok id
  | none => .error (.badIdentity word)

/-- The peer that a word writes. -/
def Peer.read (word : String) : Except Fault Peer :=
  match Peer.ofText? word with
  | some p => .ok p
  | none => .error (.badPeer word)

/-- The number below a bound that a word writes in decimal digits, after a plus sign or without. -/
def naturalBelow? (bound : Nat) (word : String) : Option Nat :=
  let digits := match word.toList with
    | '+' :: rest => rest
    | cs => cs
  if digits.isEmpty || !digits.all Char.isDigit then none
  else
    let n := digits.foldl (fun n c => n * 10 + (c.toNat - '0'.toNat)) 0
    if n < bound then some n else none

/-- The port that a word writes. -/
def port? (word : String) : Option UInt16 := (naturalBelow? (Nat.pow 2 16) word).map UInt16.ofNat

end PodMesh
