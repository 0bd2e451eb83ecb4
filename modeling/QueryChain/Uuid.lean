/-
# Universally unique identifiers

128 bits, written as five groups of hexadecimal digits.
-/
import QueryChain.Text.Hex

namespace QueryChain

/-- An identifier of 128 bits. -/
structure Uuid where
  bits : BitVec 128
  deriving DecidableEq, Repr

namespace Uuid

/-- Reads 32 digits, either plain or with a hyphen after the 8th, 12th, 16th and 20th. -/
def ofText? (text : String) : Option Uuid :=
  let cs := text.toList
  let plain := cs.filter (· ≠ '-')
  let hyphens : List Nat := cs.zipIdx.filterMap fun (c, i) => if c = '-' then some i else none
  if plain.length = 32 ∧ (hyphens = [] ∨ hyphens = [8, 13, 18, 23]) then
    (readHex? plain).map fun n => ⟨BitVec.ofNat 128 n⟩
  else none

/-- Lower-case digits in groups of 8, 4, 4, 4 and 12. -/
def text (u : Uuid) : String :=
  let group (shift width : Nat) := writeHex width (u.bits.toNat / Nat.pow 16 shift)
  String.ofList (group 24 8 ++ '-' :: group 20 4 ++ '-' :: group 16 4 ++ '-' :: group 12 4
    ++ '-' :: group 0 12)

end Uuid

end QueryChain
