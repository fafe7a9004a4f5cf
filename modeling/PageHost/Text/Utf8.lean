/-!
# UTF-8

Strict decoding refuses malformed bytes; lenient decoding writes one U+FFFD for
each maximal part of a sequence that could have begun a character. Both work on
one step, which reads a character or says how many bytes to give up.
-/

namespace PageHost.Text

/-- What the front of a byte list holds. -/
inductive Utf8Step where
  /-- A character and the bytes after it. -/
  | char (c : Char) (rest : List UInt8)
  /-- Bytes that begin no character: what follows the part given up. -/
  | malformed (rest : List UInt8)

/-- Whether a byte can continue a sequence. -/
def isContinuation (b : UInt8) : Bool := 0x80 ≤ b && b ≤ 0xBF

/-- The range that the second byte must lie in after a given lead byte. -/
def secondByteRange (lead : UInt8) : UInt8 × UInt8 :=
  if lead == 0xE0 then (0xA0, 0xBF)
  else if lead == 0xED then (0x80, 0x9F)
  else if lead == 0xF0 then (0x90, 0xBF)
  else if lead == 0xF4 then (0x80, 0x8F)
  else (0x80, 0xBF)

/-- How many bytes follow a lead byte of two or more; 0 for bytes that lead nothing. -/
def continuationCount (lead : UInt8) : Nat :=
  if 0xC2 ≤ lead && lead ≤ 0xDF then 1
  else if 0xE0 ≤ lead && lead ≤ 0xEF then 2
  else if 0xF0 ≤ lead && lead ≤ 0xF4 then 3
  else 0

/-- Reads `count` further continuation bytes onto a value. -/
def readContinuation : Nat → Nat → List UInt8 → Utf8Step
  | 0, value, rest => .char (Char.ofNat value) rest
  | count + 1, value, b :: rest =>
    if isContinuation b then readContinuation count (value * 64 + (b.toNat - 0x80)) rest
    else .malformed (b :: rest)
  | _ + 1, _, [] => .malformed []

/-- Reads the front of a non-empty byte list. -/
def utf8Step (b : UInt8) (rest : List UInt8) : Utf8Step :=
  if b < 0x80 then .char (Char.ofNat b.toNat) rest
  else
    let count := continuationCount b
    match count, rest with
    | 0, _ => .malformed rest
    | _, [] => .malformed []
    | n + 1, second :: tail =>
      let range := secondByteRange b
      if range.1 ≤ second && second ≤ range.2 then
        let lead := b.toNat % Nat.pow 2 (5 - n)
        readContinuation n (lead * 64 + (second.toNat - 0x80)) tail
      else .malformed rest

/-- Decodes with at most `fuel` steps; each step uses at least one byte. -/
def decodeSteps : Nat → List UInt8 → List (Option Char)
  | 0, _ => []
  | _, [] => []
  | fuel + 1, b :: rest =>
    match utf8Step b rest with
    | .char c rest => some c :: decodeSteps fuel rest
    | .malformed rest => none :: decodeSteps fuel rest

/-- The text of well-formed bytes. -/
def decodeUtf8? (bytes : List UInt8) : Option String :=
  ((decodeSteps bytes.length bytes).mapM id).map String.ofList

/-- The text of any bytes, U+FFFD in place of what is malformed. -/
def decodeUtf8 (bytes : List UInt8) : String :=
  String.ofList ((decodeSteps bytes.length bytes).map fun c => c.getD '\uFFFD')

/-- The bytes of one character. -/
def charBytes (c : Char) : List UInt8 :=
  let n := c.toNat
  if n < 0x80 then [n.toUInt8]
  else if n < 0x800 then [(0xC0 + n / 64).toUInt8, (0x80 + n % 64).toUInt8]
  else if n < 0x10000 then
    [(0xE0 + n / 4096).toUInt8, (0x80 + n / 64 % 64).toUInt8, (0x80 + n % 64).toUInt8]
  else
    [(0xF0 + n / 262144).toUInt8, (0x80 + n / 4096 % 64).toUInt8, (0x80 + n / 64 % 64).toUInt8,
      (0x80 + n % 64).toUInt8]

/-- The bytes of a text. -/
def utf8Bytes (s : List Char) : List UInt8 := s.flatMap charBytes

example : decodeUtf8? (utf8Bytes ['h', 'é', '日', '🎉']) = some "hé日🎉" := by decide +kernel
example : decodeUtf8? [0xC3] = none := by decide +kernel
example : decodeUtf8 [0x61, 0xE2, 0x82, 0x62, 0xED, 0xA0] = "a\uFFFDb\uFFFD\uFFFD" := by
  decide +kernel

end PageHost.Text
