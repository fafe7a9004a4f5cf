import PageHost.Json.Basic
import PageHost.Document.Basic
/-!
# Payloads

Values that cross the boundary between the engine and the page: attribute
values, handlers and seeds. On the wire a payload is an object with `kind` and
`value`, or the array of the two. Unknown members are ignored, repeated ones are
refused, and a null payload may leave its value out.
-/

namespace PageHost

/-- A value that crosses the boundary. -/
inductive Payload where
  | text (value : String)
  | number (value : Float)
  | bool (value : Bool)
  /-- The number of a node of the page, below 2^64. -/
  | handle (value : Nat)
  | null

namespace Payload

/-- The name of a payload's kind. -/
def kind : Payload → String
  | .text _ => "text"
  | .number _ => "number"
  | .bool _ => "bool"
  | .handle _ => "handle"
  | .null => "null"

/-- The text of a text. -/
def text? : Payload → Option String
  | .text value => some value
  | _ => none

/-- The node that a handle names. -/
def handle? : Payload → Option Handle
  | .handle value => some value
  | _ => none

/-- Whether the payload is null. -/
def isNull : Payload → Bool
  | .null => true
  | _ => false

/-- The wire form. -/
def toJson : Payload → Json
  | .text value => .object [("kind", .string "text"), ("value", .string value)]
  | .number value => .object [("kind", .string "number"), ("value", .float value)]
  | .bool value => .object [("kind", .string "bool"), ("value", .bool value)]
  | .handle value => .object [("kind", .string "handle"), ("value", .nat value)]
  | .null => .object [("kind", .string "null")]

/-- The payload of a kind with a value, which only null may lack. -/
def ofParts? (kind : String) (value : Option Json) : Option Payload :=
  match kind, value with
  | "text", some value => value.string?.map .text
  | "number", some value => value.float?.map .number
  | "bool", some value => value.bool?.map .bool
  | "handle", some value => value.word?.map .handle
  | "null", none => some .null
  | "null", some .null => some .null
  | _, _ => none

/-- The kind written in a wire form: its name, or an object that holds the name
as its only member with the value null. -/
def kindName? : Json → Option String
  | .string name => some name
  | .object [(name, .null)] => some name
  | _ => none

/-- Reads the wire form. -/
def ofJson? : Json → Option Payload
  | .object members => do
    let kind ← Keyed.sole? members "kind"
    let value ← Keyed.sole? members "value"
    let name ← kindName? (← kind)
    ofParts? name value
  | .array [kind, value] => do
    let name ← kindName? kind
    ofParts? name (some value)
  | _ => none

end Payload

end PageHost
