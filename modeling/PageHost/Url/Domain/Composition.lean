import PageHost.Url.Domain.CompositionTable
import PageHost.Url.Domain.Table
/-!
# Composing characters

A letter and the marks after it are written as one character where there is one.
To that end all composed characters are taken apart, marks are put in the order of
their classes, and each mark is joined with its letter if no mark of the same or a
higher class stands between them.
-/

namespace PageHost.Url.Domain

/-- Composed characters and their two parts. -/
def composites : List (Nat × Nat × Nat) := pairsFrom 0 compositesRows.flatten

/-- Spans of combining characters and their classes. -/
def combiningSpans : List (Nat × Nat × Nat) := classesFrom 0 classesRows.flatten

/-- The combining class of a character, 0 for those that do not combine. -/
def combiningClass (n : Nat) : Nat :=
  if n < 0x80 then 0
  else
    match combiningSpans.find? fun (first, last, _) => decide (first ≤ n) && decide (n ≤ last) with
    | some (_, _, value) => value
    | none => 0

/-! ## Korean syllables -/

/-- The parts of a syllable: a lead, a vowel and maybe a tail. -/
def syllableParts? (n : Nat) : Option (List Nat) :=
  if 0xAC00 ≤ n ∧ n < 0xAC00 + 11172 then
    let index := n - 0xAC00
    let lead := 0x1100 + index / 588
    let vowel := 0x1161 + index % 588 / 28
    let tail := index % 28
    some (if tail = 0 then [lead, vowel] else [lead, vowel, 0x11A7 + tail])
  else none

/-- The syllable of two parts. -/
def syllable? (a b : Nat) : Option Nat :=
  if 0x1100 ≤ a ∧ a < 0x1113 ∧ 0x1161 ≤ b ∧ b < 0x1176 then
    some (0xAC00 + ((a - 0x1100) * 21 + (b - 0x1161)) * 28)
  else if 0xAC00 ≤ a ∧ a < 0xAC00 + 11172 ∧ (a - 0xAC00) % 28 = 0 ∧ 0x11A7 < b ∧ b < 0x11C3 then
    some (a + (b - 0x11A7))
  else none

/-! ## Taking apart -/

/-- The parts of a character, taken apart up to `depth` times. -/
def partsWithin : Nat → Nat → List Nat
  | 0, n => [n]
  | depth + 1, n =>
    match syllableParts? n with
    | some parts => parts
    | none =>
      match composites.lookup n with
      | some (first, second) => partsWithin depth first ++ [second]
      | none => [n]

/-- The parts of a character; no composite is nested more deeply. -/
def parts (n : Nat) : List Nat := if n < 0x80 then [n] else partsWithin 4 n

/-- Puts a character behind those, given last first, whose classes do not make it
stand further in front. -/
def placeBehind (n : Nat) : List Nat → List Nat
  | [] => [n]
  | m :: before =>
    if combiningClass n ≠ 0 ∧ combiningClass n < combiningClass m then m :: placeBehind n before
    else n :: m :: before

/-- Characters with their marks in the order of their classes. -/
def orderMarks (ns : List Nat) : List Nat :=
  (ns.foldl (fun before n => placeBehind n before) []).reverse

/-! ## Putting together -/

/-- The character composed of two. -/
def compose? (a b : Nat) : Option Nat :=
  match syllable? a b with
  | some n => some n
  | none =>
    (composites.find? fun (_, first, second) => first == a && second == b).map fun entry => entry.1

/-- Joins marks with the letter before them; `between` are those that were not
joined, the last one first. -/
def composeAfter (letter : Nat) (between : List Nat) : List Nat → List Nat
  | [] => letter :: between.reverse
  | n :: rest =>
    let free := match between with
      | [] => true
      | m :: _ => decide (combiningClass m < combiningClass n)
    match if free then compose? letter n else none with
    | some composed => composeAfter composed between rest
    | none =>
      if combiningClass n = 0 then letter :: between.reverse ++ composeAfter n [] rest
      else composeAfter letter (n :: between) rest

/-- Joins the marks of each letter with it. -/
def composeMarks : List Nat → List Nat
  | [] => []
  | n :: rest => if combiningClass n = 0 then composeAfter n [] rest else n :: composeMarks rest

/-- The composed form of characters. -/
def composed (ns : List Nat) : List Nat := composeMarks (orderMarks (ns.flatMap parts))

end PageHost.Url.Domain
