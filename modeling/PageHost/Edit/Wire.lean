import PageHost.Edit.Basic
/-!
# The wire form of edits

An edit is an object whose member `type` names the instruction, or an array that
starts with that name and gives the fields in their order. Fields may not be
repeated; unknown members are ignored; a field that has a default may be left
out, in an array only at the end. A list of edits is refused as a whole when one
of them is malformed.
-/

namespace PageHost.Edit

/-- The fields of an edit as they were written: by name or by position. -/
inductive Fields where
  | named (members : List (String × Json))
  | positional (items : List Json)

namespace Fields

/-- What stands under a name or, in an array, at a position; none when the name
is repeated. -/
def find? (fields : Fields) (name : String) (position : Nat) : Option (Option Json) :=
  match fields with
  | .named members => Keyed.sole? members name
  | .positional items => some items[position]?

/-- Whether there are no more than `count` fields by position. -/
def atMost (fields : Fields) (count : Nat) : Bool :=
  match fields with
  | .named _ => true
  | .positional items => items.length ≤ count

/-- A field that has to be there. -/
def need {α : Type} (fields : Fields) (name : String) (position : Nat)
    (read : Json → Option α) : Option α := do
  let value ← fields.find? name position
  read (← value)

/-- A field with a default. -/
def orElse {α : Type} (fields : Fields) (name : String) (position : Nat) (default : α)
    (read : Json → Option α) : Option α := do
  match ← fields.find? name position with
  | none => some default
  | some value => read value

end Fields

/-- A namespace: a text or null for none. -/
def readSpace : Json → Option (Option String)
  | .null => some none
  | .string s => some (some s)
  | _ => none

/-- A path of child positions. -/
def readPath (value : Json) : Option (List Nat) := do
  let items ← value.array?
  items.mapM Json.word?

/-- The edit of a name with the given fields. -/
def ofFields? (type : String) (f : Fields) : Option Edit :=
  match type with
  | "create_element" => do
    guard (f.atMost 2)
    return .createElement (← f.need "tag" 0 Json.string?) (← f.need "id" 1 Json.word?)
  | "create_element_ns" => do
    guard (f.atMost 3)
    return .createElementNs (← f.need "tag" 0 Json.string?) (← f.need "id" 1 Json.word?)
      (← f.need "namespace" 2 Json.string?)
  | "create_text_node" => do
    guard (f.atMost 2)
    return .createTextNode (← f.need "text" 0 Json.string?) (← f.need "id" 1 Json.word?)
  | "create_placeholder" => do
    guard (f.atMost 1)
    return .createPlaceholder (← f.need "id" 0 Json.word?)
  | "set_node" => do
    guard (f.atMost 2)
    return .setNode (← f.need "id" 0 Json.word?) (← f.need "value" 1 Payload.ofJson?)
  | "push_root" => do
    guard (f.atMost 1)
    return .pushRoot (← f.need "id" 0 Json.word?)
  | "pop_root" => do
    guard (f.atMost 0)
    return .popRoot
  | "append_children" => do
    guard (f.atMost 1)
    return .appendChildren (← f.need "count" 0 Json.word?)
  | "replace_with" => do
    guard (f.atMost 2)
    return .replaceWith (← f.need "id" 0 Json.word?) (← f.need "count" 1 Json.word?)
  | "insert_after" => do
    guard (f.atMost 2)
    return .insertAfter (← f.need "id" 0 Json.word?) (← f.need "count" 1 Json.word?)
  | "insert_before" => do
    guard (f.atMost 2)
    return .insertBefore (← f.need "id" 0 Json.word?) (← f.need "count" 1 Json.word?)
  | "remove" => do
    guard (f.atMost 1)
    return .remove (← f.need "id" 0 Json.word?)
  | "set_text" => do
    guard (f.atMost 2)
    return .setText (← f.need "id" 0 Json.word?) (← f.need "text" 1 Json.string?)
  | "set_attribute" => do
    guard (f.atMost 4)
    return .setAttribute (← f.need "id" 0 Json.word?) (← f.need "name" 1 Json.string?)
      (← f.orElse "value" 2 .null Payload.ofJson?) (← f.orElse "namespace" 3 none readSpace)
  | "remove_attribute" => do
    guard (f.atMost 3)
    return .removeAttribute (← f.need "id" 0 Json.word?) (← f.need "name" 1 Json.string?)
      (← f.orElse "namespace" 2 none readSpace)
  | "new_event_listener" => do
    guard (f.atMost 3)
    return .newEventListener (← f.need "name" 0 Json.string?) (← f.need "id" 1 Json.word?)
      (← f.orElse "handler" 2 .null Payload.ofJson?)
  | "remove_event_listener" => do
    guard (f.atMost 2)
    return .removeEventListener (← f.need "id" 0 Json.word?) (← f.need "name" 1 Json.string?)
  | "save_template" => do
    guard (f.atMost 2)
    return .saveTemplate (← f.need "name" 0 Json.string?) (← f.need "count" 1 Json.word?)
  | "load_template" => do
    guard (f.atMost 3)
    return .loadTemplate (← f.need "name" 0 Json.string?) (← f.need "index" 1 Json.word?)
      (← f.need "id" 2 Json.word?)
  | "assign_id" => do
    guard (f.atMost 2)
    return .assignId (← f.need "path" 0 readPath) (← f.need "id" 1 Json.word?)
  | "replace_placeholder" => do
    guard (f.atMost 2)
    return .replacePlaceholder (← f.need "path" 0 readPath) (← f.need "count" 1 Json.word?)
  | _ => none

/-- Reads one edit. -/
def ofJson? : Json → Option Edit
  | .object members => do
    let type ← Keyed.sole? members "type"
    ofFields? (← (← type).string?) (.named members)
  | .array (type :: items) => do ofFields? (← type.string?) (.positional items)
  | _ => none

/-- Reads a list of edits. -/
def listOfJson? (value : Json) : Option (List Edit) := do
  let items ← value.array?
  items.mapM ofJson?

/-- A path as an array. -/
def pathJson (path : List Nat) : Json := .array (path.map Json.nat)

/-- The fields of an edit after its type, in their order. -/
def members : Edit → List (String × Json)
  | .createElement tag id => [("tag", .string tag), ("id", .nat id)]
  | .createElementNs tag id space =>
    [("tag", .string tag), ("id", .nat id), ("namespace", .string space)]
  | .createTextNode text id => [("text", .string text), ("id", .nat id)]
  | .createPlaceholder id => [("id", .nat id)]
  | .setNode id value => [("id", .nat id), ("value", value.toJson)]
  | .pushRoot id => [("id", .nat id)]
  | .popRoot => []
  | .appendChildren count => [("count", .nat count)]
  | .replaceWith id count => [("id", .nat id), ("count", .nat count)]
  | .insertAfter id count => [("id", .nat id), ("count", .nat count)]
  | .insertBefore id count => [("id", .nat id), ("count", .nat count)]
  | .remove id => [("id", .nat id)]
  | .setText id text => [("id", .nat id), ("text", .string text)]
  | .setAttribute id name value space =>
    [("id", .nat id), ("name", .string name), ("value", value.toJson),
      ("namespace", .ofOption .string space)]
  | .removeAttribute id name space =>
    [("id", .nat id), ("name", .string name), ("namespace", .ofOption .string space)]
  | .newEventListener name id handler =>
    [("name", .string name), ("id", .nat id), ("handler", handler.toJson)]
  | .removeEventListener id name => [("id", .nat id), ("name", .string name)]
  | .saveTemplate name count => [("name", .string name), ("count", .nat count)]
  | .loadTemplate name index id =>
    [("name", .string name), ("index", .nat index), ("id", .nat id)]
  | .assignId path id => [("path", pathJson path), ("id", .nat id)]
  | .replacePlaceholder path count => [("path", pathJson path), ("count", .nat count)]

/-- The name of an edit's constructor. -/
def constructorName : Edit → String
  | .createElement .. => "createElement"
  | .createElementNs .. => "createElementNs"
  | .createTextNode .. => "createTextNode"
  | .createPlaceholder .. => "createPlaceholder"
  | .setNode .. => "setNode"
  | .pushRoot .. => "pushRoot"
  | .popRoot => "popRoot"
  | .appendChildren .. => "appendChildren"
  | .replaceWith .. => "replaceWith"
  | .insertAfter .. => "insertAfter"
  | .insertBefore .. => "insertBefore"
  | .remove .. => "remove"
  | .setText .. => "setText"
  | .setAttribute .. => "setAttribute"
  | .removeAttribute .. => "removeAttribute"
  | .newEventListener .. => "newEventListener"
  | .removeEventListener .. => "removeEventListener"
  | .saveTemplate .. => "saveTemplate"
  | .loadTemplate .. => "loadTemplate"
  | .assignId .. => "assignId"
  | .replacePlaceholder .. => "replacePlaceholder"

/-- A name in camel case written with underscores: one before each capital that does
not start the name, and all letters small. -/
def snakeCase (name : String) : String :=
  String.ofList (name.toList.zipIdx.flatMap fun (c, place) =>
    if 0 < place ∧ c.isUpper then ['_', c.toLower] else [c.toLower])

/-- The member that tells edits apart: the constructor's name with underscores. -/
def tag (edit : Edit) : String := snakeCase edit.constructorName

/-- Writes one edit, all fields included. -/
def toJson (edit : Edit) : Json := .object (("type", .string edit.tag) :: edit.members)

end PageHost.Edit
