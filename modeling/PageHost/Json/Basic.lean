import PageHost.Keyed
import PageHost.Word
/-!
# JSON values

A value is a finite tree. Whole numbers that fit 64 bits stay exact and every
other number is a double-precision float, so the two forms of a number are told
apart. An object keeps its members in the order and number in which they were
written; a reader that forbids repetition says so through `Keyed.sole?`.
-/

namespace PageHost

/-- A JSON number. -/
inductive Number where
  /-- A whole number between -2^63 and 2^64 - 1. -/
  | int (value : Int)
  /-- Any other number, negative zero included. -/
  | float (value : Float)

/-- A JSON value. -/
inductive Json where
  | null
  | bool (value : Bool)
  | number (value : Number)
  | string (value : String)
  | array (items : List Json)
  | object (members : List (String × Json))

/-- The nearest float. -/
def Number.toFloat : Number → Float
  | .int value =>
    let size := value.natAbs.toUInt64.toFloat
    if value < 0 then -size else size
  | .float value => value

namespace Json

/-- A natural number. -/
def nat (n : Nat) : Json := .number (.int n)

/-- A float. -/
def float (x : Float) : Json := .number (.float x)

/-- The value of a present option, null otherwise. -/
def ofOption {α : Type} (encode : α → Json) : Option α → Json
  | none => .null
  | some a => encode a

/-- The text of a string. -/
def string? : Json → Option String
  | .string s => some s
  | _ => none

/-- A whole number from 0 to 2^64 - 1 that was written as an integer. -/
def word? : Json → Option Nat
  | .number (.int value) => if 0 ≤ value ∧ value < wordLimit then some value.toNat else none
  | _ => none

/-- A truth value. -/
def bool? : Json → Option Bool
  | .bool b => some b
  | _ => none

/-- Any number, as a float. -/
def float? : Json → Option Float
  | .number n => some n.toFloat
  | _ => none

/-- The items of an array. -/
def array? : Json → Option (List Json)
  | .array items => some items
  | _ => none

/-- The last value under a name. -/
def last? (members : List (String × Json)) (name : String) : Option Json :=
  (Keyed.valuesOf members name).getLast?

/-- The value under a name of an object. -/
def get? (value : Json) (name : String) : Option Json :=
  match value with
  | .object members => last? members name
  | _ => none

mutual

/-- The value in which a repeated name of an object keeps only its last value. -/
def lastWins : Json → Json
  | .array items => .array (lastWinsItems items)
  | .object members => .object (lastWinsMembers members [])
  | value => value

/-- `lastWins` for each item. -/
def lastWinsItems : List Json → List Json
  | [] => []
  | item :: rest => lastWins item :: lastWinsItems rest

/-- `lastWins` for members, onto those already kept. -/
def lastWinsMembers : List (String × Json) → List (String × Json) → List (String × Json)
  | [], kept => kept
  | (name, value) :: rest, kept =>
    lastWinsMembers rest (kept.filter (fun m => m.1 != name) ++ [(name, lastWins value)])

end

end Json

end PageHost
