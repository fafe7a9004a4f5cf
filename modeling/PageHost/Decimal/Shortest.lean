import PageHost.Word
/-!
# Shortest decimals

A finite binary float stands for every real number that rounds to it. The
module finds the decimal with the fewest digits among those, and of these the
one nearest to the float, in exact integer arithmetic: for one digit, two
digits and so on it tests the two neighbours of the float on that decimal grid.
Seventeen digits always suffice. Reading decimals is not covered here.
-/

namespace PageHost

/-- The decimal 0.d₁d₂… · 10^point. -/
structure Decimal where
  /-- Digits below ten, the most significant first. -/
  digits : List Nat
  /-- Where the point stands, counted from before the first digit. -/
  point : Int
deriving Repr, DecidableEq

/-- The positive number `mantissa · 2^exponent` and the shape of its rounding interval. -/
structure Dyadic where
  mantissa : Nat
  exponent : Int
  /-- Whether the next float below is only half as far away as the next above. -/
  narrowBelow : Bool

namespace Dyadic

/-- `value · 2^exponent` as a quotient of natural numbers. -/
def quotient (value : Nat) (exponent : Int) : Nat × Nat :=
  (value * Nat.pow 2 exponent.toNat, Nat.pow 2 (-exponent).toNat)

/-- `value · 10^exponent` as a quotient of natural numbers. -/
def tenfold (value : Nat) (exponent : Int) : Nat × Nat :=
  (value * Nat.pow 10 exponent.toNat, Nat.pow 10 (-exponent).toNat)

/-- Comparison of two quotients. -/
def compareQuotients (a b : Nat × Nat) : Ordering := compare (a.1 * b.2) (b.1 * a.2)

/-- Whether `digits · 10^scale` rounds to the number. The ends of the interval
round to it exactly when the mantissa is even. -/
def roundsTo (x : Dyadic) (digits : Nat) (scale : Int) : Bool :=
  let low := quotient (4 * x.mantissa - (if x.narrowBelow then 1 else 2)) (x.exponent - 2)
  let high := quotient (4 * x.mantissa + 2) (x.exponent - 2)
  let candidate := tenfold digits scale
  let inside (o : Ordering) : Bool := o == .lt || (o == .eq && x.mantissa % 2 == 0)
  inside (compareQuotients low candidate) && inside (compareQuotients candidate high)

/-- The number of decimal digits of a natural number; 1 for 0. -/
def digitCount (n : Nat) : Nat := (Nat.toDigits 10 n).length

/-- The least `p` with `x < 10^p`. -/
def magnitude (x : Dyadic) : Int :=
  let (num, den) := quotient x.mantissa x.exponent
  if den ≤ num then (digitCount (num / den) : Int)
  else 1 - (digitCount ((den + num - 1) / num - 1) : Int)

/-- The neighbour of the number among the multiples of `10^scale` that rounds to
it: the nearer one if both do, the even one if they are equally near. -/
def onGrid? (x : Dyadic) (scale : Int) : Option Nat :=
  let (num, den) := quotient x.mantissa x.exponent
  let (unit, per) := tenfold 1 scale
  let below := num * per / (den * unit)
  let rest := num * per % (den * unit)
  let nearer := match compare (2 * rest) (den * unit) with
    | .lt => below
    | .gt => below + 1
    | .eq => if below % 2 = 0 then below else below + 1
  let further := if nearer = below then below + 1 else below
  if x.roundsTo nearer scale then some nearer
  else if x.roundsTo further scale then some further
  else none

/-- The digits of a natural number without the zeros at its end. -/
def significant (n : Nat) : List Nat :=
  (((Nat.toDigits 10 n).map fun c => c.toNat - 48).reverse.dropWhile (· == 0)).reverse

/-- The shortest decimal that rounds to the number. -/
def shortest (x : Dyadic) : Decimal :=
  let top := x.magnitude
  let hit := (List.range 17).findSome? fun n =>
    let scale := top - Int.ofNat (n + 1)
    (x.onGrid? scale).map fun digits => (digits, scale)
  match hit with
  | some (digits, scale) => ⟨significant digits, scale + digitCount digits⟩
  | none => ⟨[], 0⟩

end Dyadic

/-- A float taken apart. -/
inductive FloatParts where
  | nan
  | infinite (negative : Bool)
  | zero (negative : Bool)
  | finite (negative : Bool) (magnitude : Dyadic)

/-- The number of fractions of a double-precision float, 2^52. -/
abbrev fractionLimit : Nat := 4503599627370496

/-- The parts of a double-precision float, read from its bits. -/
def FloatParts.ofFloat (x : Float) : FloatParts :=
  let bits : Nat := x.toBits.toNat
  let negative := decide (signLimit ≤ bits)
  let exponent : Nat := bits / fractionLimit % 2048
  let fraction : Nat := bits % fractionLimit
  if exponent = 2047 then
    if fraction = 0 then .infinite negative else .nan
  else if exponent = 0 then
    if fraction = 0 then .zero negative else .finite negative ⟨fraction, -1074, false⟩
  else .finite negative ⟨fraction + fractionLimit, (exponent : Int) - 1075, decide (fraction = 0 ∧ 1 < exponent)⟩

example : (Dyadic.mk 1 (-1074) false).shortest = ⟨[5], -323⟩ := by decide +kernel
example : (Dyadic.mk fractionLimit 8 true).shortest.point = 19 := by decide +kernel
example : (Dyadic.mk 3 (-1) false).shortest = ⟨[1, 5], 1⟩ := by decide +kernel

end PageHost
