/-!
# Labels in ASCII

A label with characters outside ASCII is written as its ASCII characters, a hyphen
and a list of numbers: for each other character, in order of its value and place,
how far value and place moved on. The numbers have base 36 with digits whose
weights adapt to the numbers seen so far.
-/

namespace PageHost.Url.Domain

/-- The least value of a character that is not written as it is. -/
def firstEncoded : Nat := 0x80

/-- The first bias. -/
def firstBias : Nat := 72

/-- A digit below this value ends a number; it lies between 1 and 26. -/
def threshold (bias k : Nat) : Nat := max 1 (min 26 (k - bias))

/-- Divides a number until it is at most 455; the result and 36 per division. -/
def scaleDown : Nat → Nat × Nat
  | delta =>
    if 455 < delta then
      let below := scaleDown (delta / 35)
      (below.1, below.2 + 36)
    else (delta, 0)
termination_by delta => delta
decreasing_by omega

/-- The bias after a number, when so many characters are placed. -/
def adapt (delta count : Nat) (first : Bool) : Nat :=
  let halved := delta / if first then 700 else 2
  let (scaled, weight) := scaleDown (halved + halved / count)
  weight + 36 * scaled / (scaled + 38)

/-! ## Writing -/

/-- The character of a digit. -/
def digitChar (d : Nat) : Char := Char.ofNat (if d < 26 then d + 97 else d + 22)

/-- Writes a number from a position on; `fuel` bounds its digits. -/
def numberFrom (bias : Nat) : Nat → Nat → Nat → List Char
  | 0, _, _ => []
  | fuel + 1, k, n =>
    let t := threshold bias k
    if n < t then [digitChar n]
    else digitChar (t + (n - t) % (36 - t)) :: numberFrom bias fuel (k + 36) ((n - t) / (36 - t))

/-- Writes a number. -/
def numberText (bias n : Nat) : List Char := numberFrom bias (n + 1) 36 n

/-- The state of writing. -/
structure Writing where
  delta : Nat
  bias : Nat
  /-- How many characters are placed. -/
  count : Nat
  text : List Char

/-- Passes a character while those with the value `value` are placed. -/
def passChar (basic value : Nat) (w : Writing) (n : Nat) : Writing :=
  if n < value then { w with delta := w.delta + 1 }
  else if n = value then
    ⟨0, adapt w.delta (w.count + 1) (w.count == basic), w.count + 1,
      w.text ++ numberText w.bias w.delta⟩
  else w

/-- Places the characters of each of the given values, in ascending order; `least`
is where the values not yet placed begin. -/
def placeValues (ns : List Nat) (basic : Nat) : Nat → Writing → List Nat → Writing
  | _, w, [] => w
  | least, w, value :: rest =>
    let start := { w with delta := w.delta + (value - least) * (w.count + 1) }
    let w := ns.foldl (passChar basic value) start
    placeValues ns basic (value + 1) { w with delta := w.delta + 1 } rest

/-- Writes a label in ASCII, without the sign in front. -/
def encodeLabel (ns : List Nat) : List Char :=
  let plain := ns.filter (· < firstEncoded)
  let values := ((ns.filter fun n => decide (firstEncoded ≤ n)).mergeSort (· ≤ ·)).eraseDups
  let basic := plain.length
  let written := placeValues ns basic firstEncoded ⟨0, firstBias, basic, []⟩ values
  plain.map Char.ofNat ++ (if plain.isEmpty then [] else ['-']) ++ written.text

/-! ## Reading -/

/-- The value of a digit. -/
def digitValue? (c : Char) : Option Nat :=
  if c.isLower then some (c.toNat - 97) else if c.isDigit then some (c.toNat - 22) else none

/-- Reads a number from a position on: the number and what follows it. -/
def readNumber? (bias : Nat) : Nat → Nat → Nat → List Char → Option (Nat × List Char)
  | _, _, _, [] => none
  | k, weight, sum, c :: rest => do
    let d ← digitValue? c
    let sum := sum + d * weight
    let t := threshold bias k
    if d < t then return (sum, rest) else readNumber? bias (k + 36) (weight * (36 - t)) sum rest

/-- Reads numbers and puts a character into its place for each; `fuel` bounds them. -/
def readNumbers? : Nat → Nat → Nat → Nat → List Nat → List Char → Option (List Nat)
  | _, _, _, _, placed, [] => some placed
  | 0, _, _, _, _, _ => none
  | fuel + 1, value, place, bias, placed, s => do
    let (delta, rest) ← readNumber? bias 36 1 0 s
    let count := placed.length + 1
    let next := value + (place + delta) / count
    let spot := (place + delta) % count
    guard (Nat.isValidChar next)
    let placed := placed.take spot ++ next :: placed.drop spot
    readNumbers? fuel next (spot + 1) (adapt delta count (place == 0)) placed rest

/-- Reads a label in ASCII, without the sign in front. -/
def decodeLabel? (s : List Char) : Option (List Nat) := do
  guard (s.all fun c => decide (c.toNat < firstEncoded))
  let numbers := (s.reverse.takeWhile (· != '-')).reverse
  let plain := s.take (s.length - numbers.length - 1)
  guard (s.contains '-' == !plain.isEmpty)
  readNumbers? numbers.length firstEncoded 0 firstBias (plain.map Char.toNat) numbers

example : encodeLabel [0x62, 0xFC, 0x63, 0x68, 0x65, 0x72] = "bcher-kva".toList := by
  decide +kernel
example : decodeLabel? "bcher-kva".toList = some [0x62, 0xFC, 0x63, 0x68, 0x65, 0x72] := by
  decide +kernel

end PageHost.Url.Domain
