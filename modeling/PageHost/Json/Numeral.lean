import PageHost.Json.Basic
/-!
# Numerals

The written form of a JSON number and its value. Digits are collected into a
64-bit significand; digits that no longer fit only count towards the power of
ten. The float is the significand, rounded once, times or divided by that power,
rounded again: this is exact for short numerals and may differ from the nearest
float in the last bit for long ones. A numeral too large for a float has no value.
-/

namespace PageHost

/-- The parts of a numeral. -/
structure Numeral where
  negative : Bool
  /-- Digits before the point, at least one. -/
  whole : List Nat
  /-- Digits after the point, at least one when there is a point. -/
  fraction : Option (List Nat)
  /-- Whether the exponent is negative, and its digits. -/
  exponent : Option (Bool × List Nat)

namespace Numeral

/-- The value of a decimal digit. -/
def digit? (c : Char) : Option Nat := if c.isDigit then some (c.toNat - 48) else none

/-- The digits at the front of a text and the rest. -/
def digits : List Char → List Nat × List Char
  | [] => ([], [])
  | c :: rest =>
    match digit? c with
    | none => ([], c :: rest)
    | some d => let (ds, tail) := digits rest; (d :: ds, tail)

/-- The digits before the point: a zero stands alone. -/
def scanWhole (s : List Char) : Option (List Nat × List Char) :=
  match digits s with
  | ([], _) => none
  | (0 :: _ :: _, _) => none
  | (ds, rest) => some (ds, rest)

/-- A point and the digits after it, if there is a point. -/
def scanFraction : List Char → Option (Option (List Nat) × List Char)
  | '.' :: s =>
    match digits s with
    | ([], _) => none
    | (ds, rest) => some (some ds, rest)
  | s => some (none, s)

/-- The digits of an exponent after its sign. -/
def scanExponentDigits (negative : Bool) (s : List Char) :
    Option (Option (Bool × List Nat) × List Char) :=
  match digits s with
  | ([], _) => none
  | (ds, rest) => some (some (negative, ds), rest)

/-- An exponent, if there is one. -/
def scanExponent : List Char → Option (Option (Bool × List Nat) × List Char)
  | c :: s =>
    if c = 'e' ∨ c = 'E' then
      match s with
      | '+' :: s => scanExponentDigits false s
      | '-' :: s => scanExponentDigits true s
      | s => scanExponentDigits false s
    else some (none, c :: s)
  | [] => some (none, [])

/-- Reads the numeral at the front of a text. -/
def scan? (s : List Char) : Option (Numeral × List Char) := do
  let (negative, s) := match s with
    | '-' :: s => (true, s)
    | s => (false, s)
  let (whole, s) ← scanWhole s
  let (fraction, s) ← scanFraction s
  let (exponent, s) ← scanExponent s
  return (⟨negative, whole, fraction, exponent⟩, s)

/-- Appends digits to a significand while it stays below 2^64; how many digits
were taken and how many were left over. -/
def absorb (significand : Nat) : List Nat → Nat × Nat × Nat
  | [] => (significand, 0, 0)
  | d :: ds =>
    if significand * 10 + d < wordLimit then
      let (s, taken, left) := absorb (significand * 10 + d) ds
      (s, taken + 1, left)
    else (significand, 0, ds.length + 1)

/-- `x · 10^exponent` in float arithmetic; none when it grows beyond all floats. -/
def scale (x : Float) (exponent : Int) : Option Float :=
  if exponent < -308 then
    if x == 0 then some x else scale (x / 1e308) (exponent + 308)
  else if exponent < 0 then some (x / Float.ofScientific 1 false exponent.natAbs)
  else if 308 < exponent then
    if x == 0 then some x else none
  else
    let product := x * Float.ofScientific 1 false exponent.natAbs
    if product.isInf then none else some product
termination_by (-exponent).toNat
decreasing_by omega

/-- The float with the given significand and power of ten. -/
def float? (negative : Bool) (significand : Nat) (exponent : Int) : Option Number :=
  (scale significand.toUInt64.toFloat exponent).map fun x =>
    .float (if negative then -x else x)

/-- The value of the numeral. -/
def value? (n : Numeral) : Option Number :=
  let (significand, _, spilled) := absorb 0 n.whole
  match n.fraction, n.exponent with
  | none, none =>
    if 0 < spilled then float? n.negative significand spilled
    else if ¬ n.negative then some (.int significand)
    else if 0 < significand ∧ significand ≤ signLimit then some (.int (-significand))
    else float? true significand 0
  | fraction, exponent =>
    let (significand, taken, _) := absorb significand (fraction.getD [])
    let start : Int := spilled - taken
    match exponent with
    | none => float? n.negative significand start
    | some (negative, ds) =>
      let power : Nat := ds.foldl (fun p d => p * 10 + d) 0
      if power < 2147483648 then
        float? n.negative significand (if negative then start - power else start + power)
      else if significand ≠ 0 ∧ ¬ negative then none
      else float? n.negative 0 0

end Numeral

end PageHost
