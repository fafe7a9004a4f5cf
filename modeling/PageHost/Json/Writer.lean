import PageHost.Json.Basic
import PageHost.Decimal.Layout
/-!
# Writing JSON text

The compact form: no blanks, members in their order, control characters
escaped. Floats get their shortest digits and always a point or an exponent;
what is not a number or not finite is written as null.
-/

namespace PageHost.Json

/-- Floats are written without an exponent from 10^-5 up to below 10^16, and a
whole number keeps a point. -/
def floatLayout : Layout where
  positional := some (-5, 16)
  keepsPoint := true
  zero negative := if negative then "-0.0" else "0.0"
  infinite _ := none
  nan := none

/-- A hexadecimal digit. -/
def hexDigit (n : Nat) : Char := Nat.digitChar n

/-- One character inside quotes. -/
def escape (c : Char) : List Char :=
  match c with
  | '"' => ['\\', '"']
  | '\\' => ['\\', '\\']
  | '\n' => ['\\', 'n']
  | '\r' => ['\\', 'r']
  | '\t' => ['\\', 't']
  | '\x08' => ['\\', 'b']
  | '\x0c' => ['\\', 'f']
  | c =>
    if c.toNat < 0x20 then ['\\', 'u', '0', '0', hexDigit (c.toNat / 16), hexDigit (c.toNat % 16)]
    else [c]

/-- A text in quotes. -/
def quote (s : String) : String := "\"" ++ String.ofList (s.toList.flatMap escape) ++ "\""

/-- The text of a number. -/
def numberText : Number → String
  | .int value => toString value
  | .float value => (floatLayout.text? value).getD "null"

mutual

/-- The text of a value. -/
def render : Json → String
  | .null => "null"
  | .bool value => if value then "true" else "false"
  | .number value => numberText value
  | .string value => quote value
  | .array [] => "[]"
  | .array (item :: rest) => "[" ++ render item ++ renderItems rest ++ "]"
  | .object [] => "\x7b\x7d"
  | .object ((name, value) :: rest) =>
    "\x7b" ++ quote name ++ ":" ++ render value ++ renderMembers rest ++ "\x7d"

/-- The further items of an array, each after a comma. -/
def renderItems : List Json → String
  | [] => ""
  | item :: rest => "," ++ render item ++ renderItems rest

/-- The further members of an object, each after a comma. -/
def renderMembers : List (String × Json) → String
  | [] => ""
  | (name, value) :: rest => "," ++ quote name ++ ":" ++ render value ++ renderMembers rest

end

end PageHost.Json
