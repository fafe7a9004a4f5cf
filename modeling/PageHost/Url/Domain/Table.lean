/-!
# Tables of characters

Tables are written as rows of numbers. Each entry starts with its distance from
the entry before, so that the numbers stay short; an entry may go on in the next
row.
-/

namespace PageHost.Url.Domain

/-- The first and the last number of each span. -/
def spansFrom : Nat → List Nat → List (Nat × Nat)
  | place, gap :: length :: rest =>
    (place + gap, place + gap + length) :: spansFrom (place + gap + length) rest
  | _, _ => []

/-- The spans of a table. -/
def spans (rows : List (List Nat)) : List (Nat × Nat) := spansFrom 0 rows.flatten

/-- Whether a number lies in one of the spans. -/
def within (spans : List (Nat × Nat)) (n : Nat) : Bool :=
  spans.any fun span => decide (span.1 ≤ n) && decide (n ≤ span.2)

/-- The entries of a table whose entries are single numbers. -/
def singlesFrom : Nat → List Nat → List (Nat × Nat)
  | place, gap :: value :: rest => (place + gap, value) :: singlesFrom (place + gap) rest
  | _, _ => []

/-- The entries of a table whose entries are pairs. -/
def pairsFrom : Nat → List Nat → List (Nat × Nat × Nat)
  | place, gap :: a :: b :: rest => (place + gap, a, b) :: pairsFrom (place + gap) rest
  | _, _ => []

/-- The entries of a table whose entries are lists, each after its length; `fuel`
bounds their number. -/
def listsFrom : Nat → Nat → List Nat → List (Nat × List Nat)
  | fuel + 1, place, gap :: length :: rest =>
    (place + gap, rest.take length) :: listsFrom fuel (place + gap) (rest.drop length)
  | _, _, _ => []

/-- A run of numbers that move by one distance. -/
structure ShiftedRun where
  start : Nat
  count : Nat
  step : Nat
  /-- What the first becomes. -/
  target : Nat
deriving Repr, DecidableEq

/-- The runs of a table. -/
def runsFrom : Nat → List Nat → List ShiftedRun
  | place, gap :: count :: step :: target :: rest =>
    ⟨place + gap, count, step, target⟩ :: runsFrom (place + gap) rest
  | _, _ => []

/-- What a number in a run becomes. -/
def ShiftedRun.shift? (r : ShiftedRun) (n : Nat) : Option Nat :=
  if r.start ≤ n ∧ n < r.start + r.count * r.step ∧ (n - r.start) % r.step = 0 then
    some (r.target + (n - r.start))
  else none

/-- Spans of one class: the first and the last number and the class. -/
def classesFrom : Nat → List Nat → List (Nat × Nat × Nat)
  | place, gap :: length :: value :: rest =>
    (place + gap, place + gap + length, value) :: classesFrom (place + gap + length) rest
  | _, _ => []

end PageHost.Url.Domain
