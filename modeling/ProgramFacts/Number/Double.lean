/-!
# Finite doubles

The finite numbers of the 64-bit binary floating point format, as a sign, a
significand of at most 53 bits and a power of two. Arithmetic is exact arithmetic
followed by rounding to the nearest such number, ties going to the even
significand; a result beyond the largest one is none.
-/

namespace ProgramFacts.Number

/-- The number `± significand · 2 ^ exponent`.

The numbers made here are in the format's own form: the significand is below `2 ^ 53`,
the exponent at least `-1074`, and a significand below `2 ^ 52` has that least
exponent. -/
structure Double where
  negative : Bool
  significand : Nat
  exponent : Int
deriving DecidableEq, Repr, Inhabited

/-- The quotient rounded to a whole number, a half going to the even neighbour. -/
def roundHalfEven (num den : Nat) : Nat :=
  let quotient := num / den
  let twice := 2 * (num % den)
  if twice < den then quotient
  else if den < twice then quotient + 1
  else quotient + quotient % 2

/-- A fraction and a power of two as one fraction: `num / den · 2 ^ power`. -/
def shiftFraction (num den : Nat) (power : Int) : Nat × Nat :=
  if 0 ≤ power then (num * Nat.pow 2 power.toNat, den)
  else (num, den * Nat.pow 2 (-power).toNat)

/-- The exponent of the largest power of two that is at most a positive fraction. -/
def floorLog2 (num den : Nat) : Int :=
  let guess : Int := (num.log2 : Int) - (den.log2 : Int)
  let (n, d) := shiftFraction num den (-guess)
  if d ≤ n then guess else guess - 1

namespace Double

/-- The least exponent of the format. -/
def minExponent : Int :=
  -1074

/-- The greatest exponent of the format. -/
def maxExponent : Int :=
  971

/-- The least significand of a number above the least exponent, `2 ^ 52`. -/
def leastNormal : Nat :=
  0x10000000000000

/-- Zero of either sign. -/
def zero (negative : Bool) : Double :=
  ⟨negative, 0, minExponent⟩

/-- The number nearest to `± num / den`, if that is not too large. -/
def nearest? (negative : Bool) (num den : Nat) : Option Double :=
  if num = 0 then
    some (zero negative)
  else
    let exponent := max (floorLog2 num den - 52) minExponent
    let (n, d) := shiftFraction num den (-exponent)
    let significand := roundHalfEven n d
    let rounded : Double :=
      if significand = 2 * leastNormal then ⟨negative, leastNormal, exponent + 1⟩
      else ⟨negative, significand, exponent⟩
    if maxExponent < rounded.exponent then none else some rounded

/-- The absolute value as a fraction. -/
def fraction (d : Double) : Nat × Nat :=
  shiftFraction d.significand 1 d.exponent

/-- The nearest number to a product, if that is not too large. -/
def mul? (x y : Double) : Option Double :=
  let (xn, xd) := x.fraction
  let (yn, yd) := y.fraction
  nearest? (x.negative != y.negative) (xn * yn) (xd * yd)

/-- The nearest number to a quotient, if that is not too large; nothing divides by zero. -/
def div? (x y : Double) : Option Double :=
  let (xn, xd) := x.fraction
  let (yn, yd) := y.fraction
  if yn = 0 then none else nearest? (x.negative != y.negative) (xn * yd) (xd * yn)

/-- The number nearest to an integer, if that is not too large. -/
def ofInt? (n : Int) : Option Double :=
  nearest? (n < 0) n.natAbs 1

end Double

end ProgramFacts.Number
