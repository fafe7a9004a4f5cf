import PageHost.Text.Utf8
/-!
# Percent-encoding

A character outside ASCII, or one that a part of a URL does not allow, is
written as its UTF-8 bytes in hexadecimal after percent signs. Each part has its
own set of characters to encode; the sets grow from one another. Decoding takes
percent signs that two hexadecimal digits do not follow as they are.
-/

namespace PageHost.Url

/-- Control characters and everything outside ASCII. -/
def controlSet (c : Char) : Bool := c.toNat < 0x20 || 0x7E < c.toNat

/-- What a fragment encodes. -/
def fragmentSet (c : Char) : Bool :=
  controlSet c || c == ' ' || c == '"' || c == '<' || c == '>' || c == '\x60'

/-- What a path encodes. -/
def pathSet (c : Char) : Bool :=
  fragmentSet c || c == '#' || c == '?' || c == '\x7b' || c == '\x7d'

/-- What a user name or password encodes. -/
def userinfoSet (c : Char) : Bool :=
  pathSet c || c == '/' || c == ':' || c == ';' || c == '=' || c == '@' || c == '[' || c == '\\' ||
    c == ']' || c == '^' || c == '|'

/-- What a query encodes. -/
def querySet (c : Char) : Bool :=
  controlSet c || c == ' ' || c == '"' || c == '#' || c == '<' || c == '>'

/-- What a query of a special scheme encodes. -/
def specialQuerySet (c : Char) : Bool := querySet c || c == '\x27'

/-- A hexadecimal digit in upper case. -/
def upperHex (n : Nat) : Char := (Nat.digitChar n).toUpper

/-- A byte after a percent sign. -/
def encodeByte (b : UInt8) : List Char :=
  ['%', upperHex (b.toNat / 16), upperHex (b.toNat % 16)]

/-- A text with the characters of a set encoded. -/
def percentEncode (set : Char → Bool) (s : List Char) : List Char :=
  s.flatMap fun c => if set c then (Text.charBytes c).flatMap encodeByte else [c]

/-- The value of a byte that is a hexadecimal digit. -/
def hexValue? (b : UInt8) : Option Nat :=
  let n := b.toNat
  if 48 ≤ n ∧ n ≤ 57 then some (n - 48)
  else if 65 ≤ n ∧ n ≤ 70 then some (n - 55)
  else if 97 ≤ n ∧ n ≤ 102 then some (n - 87)
  else none

/-- The bytes with every encoded byte decoded. -/
def percentDecode : List UInt8 → List UInt8
  | [] => []
  | b :: high :: low :: tail =>
    match if b.toNat = 37 then hexValue? high else none, hexValue? low with
    | some h, some l => (h * 16 + l).toUInt8 :: percentDecode tail
    | _, _ => b :: percentDecode (high :: low :: tail)
  | b :: rest => b :: percentDecode rest

end PageHost.Url
