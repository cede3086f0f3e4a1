import PodMesh.Text.CharSet

/-!
# Runs of characters as ranges of bytes

The characters of a run have UTF-8 forms that need not be a run themselves. They are the
forms that take each of their bytes from a range of its own, for a few rows of such
ranges.
-/

namespace PodMesh.Text

/-- A first and a last byte. -/
abbrev ByteRange := Nat × Nat

/-- The numbers from `low` to `high` as rows of ranges of digits to the base 64, one digit more than
`n`: a ragged start, the whole middle and a ragged end. -/
def digitRows : Nat → Nat → Nat → List (List ByteRange)
  | 0, low, high => [[(low, high)]]
  | n + 1, low, high =>
    let unit := Nat.pow 64 (n + 1)
    let first := low / unit
    let last := high / unit
    if first = last then (digitRows n (low % unit) (high % unit)).map ((first, first) :: ·)
    else
      let raggedStart := low % unit != 0
      let raggedEnd := high % unit != unit - 1
      let wholeFirst := if raggedStart then first + 1 else first
      let wholeLast := if raggedEnd then last - 1 else last
      (if raggedStart then (digitRows n (low % unit) (unit - 1)).map ((first, first) :: ·) else [])
        ++ (if wholeFirst ≤ wholeLast then [(wholeFirst, wholeLast) :: .replicate (n + 1) (0, 63)]
          else [])
        ++ (if raggedEnd then (digitRows n 0 (high % unit)).map ((last, last) :: ·) else [])

/-- Numbers of characters with forms of one length: the first and the last of them, how many bytes
follow the first one, and what the first byte starts from. -/
def formBlocks : List (Run × Nat × Nat) :=
  [((0, 0x7f), 0, 0), ((0x80, 0x7ff), 1, 0xc0), ((0x800, 0xd7ff), 2, 0xe0),
    ((0xe000, 0xffff), 2, 0xe0), ((0x10000, CharSet.last), 3, 0xf0)]

/-- The rows of ranges of bytes of a run. -/
def byteRows (run : Run) : List (List ByteRange) :=
  formBlocks.flatMap fun (block, following, start) =>
    let low := Nat.max run.1 block.1
    let high := Nat.min run.2 block.2
    if high < low then []
    else
      (digitRows following low high).map fun row =>
        row.mapIdx fun i range =>
          let offset := if i = 0 then start else 0x80
          (offset + range.1, offset + range.2)

example : byteRows (0x41, 0x4ff) =
    [[(0x41, 0x7f)], [(0xc2, 0xd3), (0x80, 0xbf)]] := by decide +kernel

end PodMesh.Text
