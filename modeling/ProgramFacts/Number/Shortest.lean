import ProgramFacts.Number.Double

/-!
# Writing doubles

A whole number is written with all its digits and one zero after the point. Any
other number is written with the fewest digits that are nearer to it than to every
other double, and of those the nearest to it. No exponent is ever written.
-/

namespace ProgramFacts.Number

/-- A positive double with the interval of the reals that round to it, in quarters of the
last place. -/
structure Rounding where
  /-- The significand of the double. -/
  significand : Nat
  /-- The exponent of the double. -/
  exponent : Int
deriving Repr

namespace Rounding

/-- The number itself, in quarters of its last place. -/
def middle (r : Rounding) : Nat :=
  4 * r.significand

/-- The upper end of the interval. -/
def upper (r : Rounding) : Nat :=
  4 * r.significand + 2

/-- The lower end of the interval. Below a power of two the doubles lie twice as close. -/
def lower (r : Rounding) : Nat :=
  if r.significand = Double.leastNormal ∧ Double.minExponent < r.exponent then 4 * r.significand - 1
  else 4 * r.significand - 2

/-- The ends of the interval belong to it when the significand is even. -/
def closed (r : Rounding) : Bool :=
  r.significand % 2 = 0

/-- One quarter of the last place counted in steps of `10 ^ power`, as a fraction. -/
def quarterIn (r : Rounding) (power : Int) : Nat × Nat :=
  let (n, d) := shiftFraction 1 1 (r.exponent - 2)
  if 0 ≤ power then (n, d * Nat.pow 10 power.toNat) else (n * Nat.pow 10 (-power).toNat, d)

/-- The count of steps of `10 ^ power` that is nearest to the number, of the two around it that
round to the number. -/
def onGrid? (r : Rounding) (power : Int) : Option Nat :=
  let (n, d) := r.quarterIn power
  let value := r.middle * n
  let below := value / d * d
  let above := below + d
  let belowFits := if r.closed then r.lower * n ≤ below else r.lower * n < below
  let aboveFits := if r.closed then above ≤ r.upper * n else above < r.upper * n
  if belowFits ∧ (¬ aboveFits ∨ value - below < above - value) then some (value / d)
  else if aboveFits then some (value / d + 1)
  else none

/-- Looks for the coarsest grid with a hit, from `10 ^ power` down over `steps` grids. -/
def search (r : Rounding) (power : Int) : Nat → Nat × Int
  | 0 => (0, power)
  | steps + 1 =>
      match r.onGrid? power with
      | some count => (count, power)
      | none => search r (power - 1) steps

/-- A power of ten above the number. -/
def powerAbove (r : Rounding) : Int :=
  ((r.significand.log2 : Int) + 1 + r.exponent) * 30103 / 100000 + 2

/-- The shortest decimal for the number, as digits and a power of ten. Seventeen digits
always suffice, and the search starts at most three grids early. -/
def shortest (r : Rounding) : Nat × Int :=
  r.search r.powerAbove 24

end Rounding

/-- The decimal `digits · 10 ^ power` without an exponent. -/
def positional (digits : Nat) (power : Int) : List Char :=
  let text := (toString digits).toList
  let point : Int := text.length + power
  if 0 ≤ power then
    text ++ List.replicate power.toNat '0'
  else if point ≤ 0 then
    '0' :: '.' :: (List.replicate (-point).toNat '0' ++ text)
  else
    text.take point.toNat ++ '.' :: text.drop point.toNat

namespace Double

/-- The absolute value when it is a whole number. -/
def whole? (d : Double) : Option Nat :=
  let (n, den) := d.fraction
  if n % den = 0 then some (n / den) else none

/-- The number in decimal. -/
def text (d : Double) : String :=
  let sign := if d.negative then "-" else ""
  match d.whole? with
  | some n => sign ++ toString n ++ ".0"
  | none =>
      let (digits, power) := Rounding.shortest ⟨d.significand, d.exponent⟩
      sign ++ String.ofList (positional digits power)

end Double

end ProgramFacts.Number
