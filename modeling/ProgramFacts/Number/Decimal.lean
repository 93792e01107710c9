import ProgramFacts.Number.Double

/-!
# Reading decimals

A decimal is given by its digits before the point, its digits after it and a power
of ten. It is read in two roundings: the leading digits that fit a 64-bit word are
taken as the nearest double, and that double is multiplied or divided by the double
nearest to the power of ten that remains. Digits beyond the word only count toward
that power.
-/

namespace ProgramFacts.Number

/-- The largest 64-bit word. -/
def maxWord : Nat :=
  0xffffffffffffffff

/-- Appends digits to a word as long as it stays a word; gives the word and the digits left
over. -/
def appendDigits (word : Nat) : List Nat → Nat × List Nat
  | [] => (word, [])
  | digit :: rest =>
      if maxWord < word * 10 + digit then (word, digit :: rest)
      else appendDigits (word * 10 + digit) rest

/-- The greatest power of ten that is below the largest double. -/
def maxPower : Nat :=
  308

/-- The double nearest to a power of ten. -/
def powerOfTen? (power : Nat) : Option Double :=
  Double.nearest? false (Nat.pow 10 power) 1

/-- Divides by `10 ^ power`, at most `steps` times by the greatest power of ten first. -/
def scaleDown? (d : Double) (power : Nat) : Nat → Option Double
  | 0 => some (.zero d.negative)
  | steps + 1 =>
      if power ≤ maxPower then (powerOfTen? power).bind d.div?
      else if d.significand = 0 then some d
      else do
        let divisor ← powerOfTen? maxPower
        let quotient ← d.div? divisor
        scaleDown? quotient (power - maxPower) steps

/-- Multiplies by `10 ^ power`. -/
def scaleUp? (d : Double) (power : Nat) : Option Double :=
  if power ≤ maxPower then (powerOfTen? power).bind d.mul?
  else if d.significand = 0 then some d
  else none

/-- A decimal as it is written, digits first to last. -/
structure Decimal where
  negative : Bool
  whole : List Nat
  fraction : List Nat
  power : Int
deriving DecidableEq, Repr

/-- The double that a decimal is read as, if it is not too large. -/
def Decimal.toDouble? (x : Decimal) : Option Double := do
  let (word, wholeLeft) := appendDigits 0 x.whole
  let (word, fractionLeft) := appendDigits word x.fraction
  let power : Int := x.power + wholeLeft.length - (x.fraction.length - fractionLeft.length)
  let start ← Double.nearest? false word 1
  -- Two divisions by the greatest power of ten leave nothing of any word.
  let scaled ← if 0 ≤ power then scaleUp? start power.toNat
    else scaleDown? start (-power).toNat 4
  return { scaled with negative := x.negative }

end ProgramFacts.Number
