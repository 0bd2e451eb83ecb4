/-
# Sets of characters

A property of characters is kept the way the character database lists it: as ranges of code
points.
-/
import QueryChain.Text.Hex
import QueryChain.Text.Split

namespace QueryChain

/-- A set of characters as ranges of code points, both ends included. -/
structure CharSet where
  ranges : Array (Nat × Nat)

/-- The number that hexadecimal digits denote in a table. -/
def tableNumber (digits : List Char) : Nat :=
  (readHex? digits).getD 0

namespace CharSet

/-- One range, in the form `first-last`, or a single code point. -/
def readRange (text : List Char) : Nat × Nat :=
  let bounds := (splitAtMarks (· == '-') text).map tableNumber
  (bounds.headD 0, bounds.getLastD 0)

/-- Reads ranges in hexadecimal, separated by spaces and line ends. -/
def ofText (text : String) : CharSet :=
  ⟨((runsBetween Char.isWhitespace text).map readRange).toArray⟩

/-- Whether the character lies in one of the ranges. -/
def contains (s : CharSet) (c : Char) : Bool :=
  s.ranges.any fun (first, last) => first ≤ c.toNat && c.toNat ≤ last

end CharSet

end QueryChain
