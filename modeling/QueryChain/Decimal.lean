/-
# Decimal numbers with a scale

A decimal is a whole number of units of `10 ^ -scale`.  The scale is part of the number, so
`1.10` and `1.1` are two decimals that are equal as numbers.
-/

namespace QueryChain

/-- The number `± units · 10 ^ -scale`. -/
structure Decimal where
  negative : Bool
  units : Nat
  scale : Nat
  deriving DecidableEq, Repr

namespace Decimal

/-! ## Reading -/

/-- The largest number of units: 96 bits. -/
def maxUnits : Nat := Nat.pow 2 96 - 1

/-- The largest scale. -/
def maxScale : Nat := 28

/-- Zero has no sign. -/
def make (negative : Bool) (units scale : Nat) : Decimal :=
  ⟨negative && units != 0, units, scale⟩

/-- Rounds at a first digit that no longer fits: a half goes up, and when that overflows the
units, one digit of the scale is given up. -/
def roundAt (negative : Bool) (units scale digit : Nat) : Option Decimal :=
  if digit < 5 then some (make negative units scale)
  else if units + 1 ≤ maxUnits then some (make negative (units + 1) scale)
  else if scale = 0 then none
  else some (make negative ((units + 5) / 10) (scale - 1))

/-- The value of an ASCII digit. -/
def digit? (c : Char) : Option Nat :=
  if '0' ≤ c ∧ c ≤ '9' then some (c.toNat - '0'.toNat) else none

/-- What a character right behind the last place counts in rounding: a mark counts nothing. -/
def digitBehind? (c : Char) : Option Nat :=
  if c = '_' ∨ c = '.' then some 0 else digit? c

/-- Digits after the point.  Of what does not fit, the first character alone is looked at. -/
def readFraction (negative seen : Bool) (units scale : Nat) : List Char → Option Decimal
  | [] => if seen then some (make negative units scale) else none
  | c :: rest =>
      if scale < maxScale then
        match digit? c with
        | some d =>
            if units * 10 + d ≤ maxUnits then
              readFraction negative true (units * 10 + d) (scale + 1) rest
            else roundAt negative units scale d
        | none => if c = '_' ∧ seen then readFraction negative seen units scale rest else none
      else (digitBehind? c).bind (roundAt negative units scale)

/-- Digits before the point. -/
def readWhole (negative seen : Bool) (units : Nat) : List Char → Option Decimal
  | [] => if seen then some (make negative units 0) else none
  | c :: rest =>
      match digit? c with
      | some d =>
          if units * 10 + d ≤ maxUnits then readWhole negative true (units * 10 + d) rest
          else none
      | none =>
          if c = '.' then readFraction negative seen units 0 rest
          else if c = '_' ∧ seen then readWhole negative seen units rest
          else none

/-- Reads an optional sign and digits with at most one point; every digit after the point
counts towards the scale. -/
def ofText? (text : String) : Option Decimal :=
  match text.toList with
  | '-' :: rest => readWhole true false 0 rest
  | '+' :: rest => readWhole false false 0 rest
  | rest => readWhole false false 0 rest

/-! ## Writing -/

/-- All digits of the units, with the point `scale` places from the right. -/
def text (d : Decimal) : String :=
  let sign := if d.negative then "-" else ""
  if d.scale = 0 then sign ++ toString d.units
  else
    let fraction := toString (d.units % Nat.pow 10 d.scale)
    sign ++ toString (d.units / Nat.pow 10 d.scale) ++ "."
      ++ String.ofList (List.replicate (d.scale - fraction.length) '0') ++ fraction

/-! ## Comparison -/

/-- The signed number of units. -/
def signed (d : Decimal) : Int :=
  if d.negative then -d.units else d.units

/-- Equality as numbers: the scale does not matter. -/
def equal (a b : Decimal) : Bool :=
  a.signed * Nat.pow 10 b.scale == b.signed * Nat.pow 10 a.scale

end Decimal

end QueryChain
