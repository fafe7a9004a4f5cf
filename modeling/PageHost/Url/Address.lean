import PageHost.Text.Blank
import PageHost.Text.Digits
/-!
# Numeric addresses

The dotted and the colon form of numeric hosts. A dotted part may be decimal,
octal after a zero or hexadecimal after `0x`, and the last part fills all bytes
that are left. The written colon form is the shortest: the longest run of zero
pieces, the first of equally long ones, gives way to a double colon.
-/

namespace PageHost.Url

/-! ## Four bytes -/

/-- What a dotted part says. -/
inductive DottedPart where
  /-- No number. -/
  | junk
  /-- A number of more than 32 bits. -/
  | tooLarge
  | value (n : Nat)

/-- Reads the digits of a part in a base. -/
def readDigits (base : Nat) (s : List Char) : DottedPart :=
  match Text.digitsIn? base s with
  | none => .junk
  | some n => if n < 4294967296 then .value n else .tooLarge

/-- Reads a part. -/
def readDotted (s : List Char) : DottedPart :=
  match s with
  | [] => .junk
  | '0' :: 'x' :: rest => readDigits 16 rest
  | '0' :: 'X' :: rest => readDigits 16 rest
  | '0' :: c :: rest => readDigits 8 (c :: rest)
  | s => readDigits 10 s

/-- The parts of a host between its dots; one dot at the end does not count. -/
def dottedParts (host : List Char) : List (List Char) :=
  let parts := Text.splitAll '.' host
  if parts.getLast? = some [] then parts.dropLast else parts

/-- Whether the last part of a host is a number, so that the whole host has to
be an address. -/
def endsInNumber (host : List Char) : Bool :=
  match (dottedParts host).getLast? with
  | none => false
  | some last =>
    (!last.isEmpty && last.all Char.isDigit) ||
      match readDotted last with
      | .junk => false
      | _ => true

/-- The numbers of all parts, if all have one. -/
def dottedValues? : List (List Char) → Option (List Nat)
  | [] => some []
  | part :: rest =>
    match readDotted part, dottedValues? rest with
    | .value n, some ns => some (n :: ns)
    | _, _ => none

/-- Reads an address of four bytes. -/
def readFourBytes? (host : List Char) : Option Nat :=
  let parts := dottedParts host
  if 4 < parts.length then none
  else
    match dottedValues? parts with
    | none => none
    | some values =>
      match values.reverse with
      | [] => none
      | last :: front =>
        if last < Nat.pow 256 (4 - front.length) ∧ front.all (· < 256) then
          some (front.reverse.zipIdx.foldl (fun sum (n, i) => sum + n * Nat.pow 256 (3 - i)) last)
        else none

/-- The dotted form of an address. -/
def dottedText (n : Nat) : List Char :=
  let byte (i : Nat) : List Char := (toString (n / Nat.pow 256 i % 256)).toList
  byte 3 ++ '.' :: byte 2 ++ '.' :: byte 1 ++ '.' :: byte 0

/-! ## Eight pieces -/

/-- Splits off up to four hexadecimal digits; their value, their number and the rest. -/
def takeHex : Nat → Nat → Nat → List Char → Nat × Nat × List Char
  | 0, value, count, s => (value, count, s)
  | _, value, count, [] => (value, count, [])
  | left + 1, value, count, c :: rest =>
    match Text.hexDigit? c with
    | none => (value, count, c :: rest)
    | some d => takeHex left (value * 16 + d) (count + 1) rest

/-- A byte in decimal without leading zeros, from 0 to 255, and the rest. -/
def takeByte? (s : List Char) : Option (Nat × List Char) :=
  let digits := s.takeWhile Char.isDigit
  match digits with
  | [] => none
  | '0' :: _ :: _ => none
  | _ =>
    match Text.digitsIn? 10 digits with
    | some n => if n < 256 then some (n, s.drop digits.length) else none
    | none => none

/-- The last four bytes of an address in dotted form, as two pieces. -/
def readEmbedded? (s : List Char) : Option (Nat × Nat) := do
  let (a, s) ← takeByte? s
  let '.' :: s := s | none
  let (b, s) ← takeByte? s
  let '.' :: s := s | none
  let (c, s) ← takeByte? s
  let '.' :: s := s | none
  let (d, []) ← takeByte? s | none
  return (a * 256 + b, c * 256 + d)

/-- Pieces read so far, and the number of them that stand before a double colon. -/
structure PieceState where
  pieces : List Nat
  gap : Option Nat

/-- Reads pieces to the end of the text; `fuel` bounds their number. -/
def readPieces? : Nat → PieceState → List Char → Option PieceState
  | _, state, [] => some state
  | 0, _, _ => none
  | fuel + 1, state, c :: rest =>
    if 8 ≤ state.pieces.length + (if state.gap.isSome then 1 else 0) then none
    else if c = ':' then
      if state.gap.isSome then none
      else readPieces? fuel { state with gap := some state.pieces.length } rest
    else
      let (value, count, tail) := takeHex 4 0 0 (c :: rest)
      match tail with
      | [] => some { state with pieces := state.pieces ++ [value] }
      | '.' :: _ =>
        if count = 0 ∨ 6 < state.pieces.length + (if state.gap.isSome then 1 else 0) then none
        else
          match readEmbedded? (c :: rest) with
          | none => none
          | some (a, b) => some { state with pieces := state.pieces ++ [a, b] }
      | ':' :: tail =>
        if tail.isEmpty then none
        else readPieces? fuel { state with pieces := state.pieces ++ [value] } tail
      | _ => none

/-- Reads an address of eight pieces. -/
def readEightPieces? (s : List Char) : Option (List Nat) := do
  guard (2 ≤ s.length)
  let (start, s) ← match s with
    | ':' :: ':' :: rest => some (PieceState.mk [] (some 0), rest)
    | ':' :: _ => none
    | s => some (PieceState.mk [] none, s)
  let state ← readPieces? 9 start s
  match state.gap with
  | none => if state.pieces.length = 8 then some state.pieces else none
  | some place =>
    let zeros := List.replicate (8 - state.pieces.length) 0
    some (state.pieces.take place ++ zeros ++ state.pieces.drop place)

/-- The number of zeros at the front of a list. -/
def zerosAtFront (pieces : List Nat) : Nat := (pieces.takeWhile (· == 0)).length

/-- The position and length of the first longest run of at least two zeros. -/
def longestZeros? (pieces : List Nat) : Option (Nat × Nat) :=
  (List.range pieces.length).foldl
    (fun best i =>
      let run := zerosAtFront (pieces.drop i)
      match best with
      | some (_, length) => if length < run then some (i, run) else best
      | none => if 2 ≤ run then some (i, run) else none)
    none

/-- Pieces with colons between them. -/
def colonText (pieces : List Nat) : List Char :=
  List.intercalate [':'] (pieces.map (Nat.toDigits 16))

/-- The colon form of an address. -/
def eightPiecesText (pieces : List Nat) : List Char :=
  match longestZeros? pieces with
  | none => colonText pieces
  | some (i, length) =>
    colonText (pieces.take i) ++ ':' :: ':' :: colonText (pieces.drop (i + length))

example : readEightPieces? "::1".toList = some [0, 0, 0, 0, 0, 0, 0, 1] := by decide +kernel
example : (readEightPieces? "1:2::3.4.5.6".toList).map eightPiecesText =
    some "1:2::304:506".toList := by decide +kernel
example : readFourBytes? "0x7f.1".toList = some (127 * 16777216 + 1) := by decide +kernel

end PageHost.Url
