import PageHost.Scheduler.Basic
/-!
# The clock

Timers fire when the clock reaches the time at which they are due, the earliest
first and those due together in the order of their requests. The clock moves
only when it is told to, or when a caller waits for the next callback.
-/

namespace PageHost.Scheduler

/-- The timers that are due, in the order in which they fire. -/
def dueTimers (s : Scheduler) : List Timer :=
  (s.timers.filter fun t => decide (t.due ≤ s.now)).mergeSort fun a b => decide (a.due ≤ b.due)

/-- Lets every timer fire that is due. -/
def settle (s : Scheduler) : Scheduler := s.dueTimers.foldl fire s

/-- Time passes. -/
def advance (s : Scheduler) (nanos : Nat) : Scheduler := { s with now := s.now + nanos }.settle

/-- When the next timer is due. -/
def nextDue? (s : Scheduler) : Option Nat := (s.timers.map (·.due)).min?

/-- Waits until the queue has an entry, of a cancelled callback or another; none
if no timer is left that could fire. -/
def wait? (s : Scheduler) : Option Scheduler :=
  if s.fired.isEmpty then
    s.nextDue?.map fun due => { s with now := max s.now due }.settle
  else some s

/-- Waits for a firing and drains the queue; at once and without effect when
nothing is pending. None when the wait would never end. -/
def tick? (s : Scheduler) : Option (List Run × Scheduler) :=
  if s.hasPending then s.wait?.map runDue else some ([], s)

/-- Ticks until nothing is pending, at most the given number of times: what ran in
each tick. -/
def tickAll : Nat → Scheduler → List (List Run) × Scheduler
  | 0, s => ([], s)
  | count + 1, s =>
    if s.hasPending then
      match s.tick? with
      | none => ([], s)
      | some (runs, s) =>
        let (more, s) := tickAll count s
        (runs :: more, s)
    else ([], s)

/-- Ticks until nothing is pending, where callbacks request nothing: each tick then
uses up a timer or an entry of the queue. -/
def tickOut (s : Scheduler) : List (List Run) × Scheduler :=
  s.tickAll (s.timers.length + s.fired.length)

/-- The milliseconds of a frame tick: seconds and the fraction of a second are
added as floats, and the sum is scaled. -/
def milliseconds (nanos : Nat) : Float :=
  ((nanos / 1000000000).toFloat + (nanos % 1000000000).toFloat / 1000000000.0) * 1000.0

end PageHost.Scheduler
