/-!
# Characters as rows of bytes

A character is encoded by one to four bytes. The characters of an interval of code
points are those whose bytes lie, one by one, in the intervals of one of several rows.
The interval is cut where the number of bytes changes, and then so that within each
piece every byte but the first that varies runs through all its values.

Every piece that a cut leaves has a byte more that runs through all its values or is the
same throughout, so that few cuts are needed.
-/

namespace CratePlan.Text

/-- A row of intervals of bytes. -/
abbrev ByteRow := List (Nat × Nat)

/-- The bytes that encode a code point. -/
def encodedBytes (n : Nat) : List Nat :=
  (String.singleton (Char.ofNat n)).toUTF8.toList.map UInt8.toNat

/-- The last code points that are encoded by one, two and three bytes. -/
def lastOfWidths : List Nat := [0x7F, 0x7FF, 0xFFFF]

/-- Where to cut an interval next, as the last code point of the part before the cut. -/
def cutOf? (first last : Nat) : Option Nat :=
  match lastOfWidths.find? fun n => first ≤ n && n < last with
  | some n => some n
  | none =>
    if last ≤ 0x7F then none
    else
      [0x40, 0x1000, 0x40000].findSome? fun size =>
        if first / size == last / size then none
        else if first % size != 0 then some (first / size * size + (size - 1))
        else if last % size != size - 1 then some (last / size * size - 1)
        else none

/-- The rows of an interval of code points, in increasing order. -/
def byteRowsWithin : Nat → Nat → Nat → List ByteRow
  | 0, _, _ => []
  | n + 1, first, last =>
    if last < first then []
    else if first < 0xE000 && 0xD7FF < last then
      byteRowsWithin n first 0xD7FF ++ byteRowsWithin n 0xE000 last
    else
      match cutOf? first last with
      | some cut => byteRowsWithin n first cut ++ byteRowsWithin n (cut + 1) last
      | none => [(encodedBytes first).zip (encodedBytes last)]

/-- The rows of an interval of code points, in increasing order. -/
def byteRows (first last : Nat) : List ByteRow := byteRowsWithin 20 first last

end CratePlan.Text
