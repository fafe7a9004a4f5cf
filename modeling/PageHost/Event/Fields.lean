import PageHost.Event.Basic
import PageHost.Event.Form
/-!
# Reported fields

The flat record of an event that the engine receives. Every record has the name
of the event; the rest depends on the category. A category without a rule of its
own is reported with the name alone and noted as a gap.
-/

namespace PageHost

namespace Key

/-- The text of a key in a report. -/
def text : Key → String
  | .character text => text
  | .named name => name

/-- The historic number of a key. -/
def keyCode : Key → Nat
  | .character text =>
    match text.toList with
    | [] => 0
    | c :: _ => if c.isAlphanum then c.toUpper.toNat else if c = ' ' then 32 else 0
  | .named name =>
    match name with
    | "Backspace" => 8
    | "Tab" => 9
    | "Enter" => 13
    | "Shift" => 16
    | "Control" => 17
    | "Alt" => 18
    | "Escape" => 27
    | "PageUp" => 33
    | "PageDown" => 34
    | "End" => 35
    | "Home" => 36
    | "ArrowLeft" => 37
    | "ArrowUp" => 38
    | "ArrowRight" => 39
    | "ArrowDown" => 40
    | "Delete" => 46
    | _ => 0

/-- The historic number of the character that a key types. -/
def charCode : Key → Nat
  | .character text =>
    match text.toList with
    | [] => 0
    | c :: _ => c.toNat
  | .named name => if name = "Enter" then 13 else 0

end Key

namespace NativeEvent

/-- The code of a place on the keyboard. -/
def locationCode : KeyLocation → Nat
  | .standard => 0
  | .left => 1
  | .right => 2
  | .numpad => 3

/-- The code of a mouse button. -/
def buttonCode : MouseButton → Nat
  | .main => 0
  | .auxiliary => 1
  | .secondary => 2
  | .fourth => 3
  | .fifth => 4

/-- The code of a scroll unit. -/
def deltaCode : DeltaMode → Nat
  | .pixel => 0
  | .line => 1
  | .page => 2

/-- The fields of the modifier keys. -/
def modifierFields (m : Modifiers) : List (String × Json) :=
  [("altKey", .bool m.altKey), ("ctrlKey", .bool m.ctrlKey), ("metaKey", .bool m.metaKey),
    ("shiftKey", .bool m.shiftKey)]

/-- The fields of a key event. Only a key press has a character code, which then
also is `which`. -/
def keyboardFields (name : String) (d : KeyboardData) : List (String × Json) :=
  let keyCode := d.key.keyCode
  let charCode := if name = "keypress" then d.key.charCode else 0
  modifierFields d.modifiers ++
    [("key", .string d.key.text), ("code", .string d.code),
      ("location", .nat (locationCode d.location)), ("repeat", .bool d.isRepeat),
      ("isComposing", .bool d.isComposing), ("keyCode", .nat keyCode),
      ("charCode", .nat charCode), ("which", .nat (if charCode ≠ 0 then charCode else keyCode))]

/-- The fields of a mouse event. -/
def mouseFields (d : MouseData) : List (String × Json) :=
  [("clientX", .float d.client.x), ("clientY", .float d.client.y), ("x", .float d.client.x),
    ("y", .float d.client.y), ("pageX", .float d.page.x), ("pageY", .float d.page.y),
    ("screenX", .float d.screen.x), ("screenY", .float d.screen.y),
    ("button", .nat (buttonCode d.button)), ("buttons", .nat d.buttons)] ++
    modifierFields d.modifiers

/-- The fields of a pointer event. -/
def pointerFields (d : PointerData) : List (String × Json) :=
  mouseFields d.mouse ++
    [("pointerId", .number (.int d.pointerId)), ("width", .float d.width),
      ("height", .float d.height), ("pressure", .float d.pressure),
      ("tangentialPressure", .float d.tangentialPressure), ("tiltX", .number (.int d.tiltX)),
      ("tiltY", .number (.int d.tiltY)), ("twist", .number (.int d.twist)),
      ("pointerType", .string d.pointerType), ("isPrimary", .bool d.isPrimary)]

/-- The fields of a form event: the values of a whole form, or the value of one
control and whether it is checked, if it can be. -/
def formFields (doc : Document) (target : Handle) : List (String × Json) :=
  if doc.tag? target = some "form" then
    [("values", .object ((doc.formValues target).map fun (name, value) => (name, .string value)))]
  else
    ("value", .string (doc.controlValue target)) ::
      if doc.isCheckable target then [("checked", .bool (doc.isChecked target))] else []

/-- The fields of a transition or an animation. -/
def motionFields (nameField : String) (d : MotionData) : List (String × Json) :=
  [(nameField, .string d.name), ("elapsedTime", .float d.elapsedTime),
    ("pseudoElement", .string d.pseudoElement)]

/-- The fields of the category of an event. -/
def categoryFields (doc : Document) (event : NativeEvent) : List (String × Json) :=
  match event.data with
  | .keyboard d => keyboardFields event.name d
  | .mouse d => mouseFields d
  | .pointer d => pointerFields d
  | .wheel d =>
    mouseFields d.mouse ++
      [("deltaX", .float d.deltaX), ("deltaY", .float d.deltaY), ("deltaZ", .float d.deltaZ),
        ("deltaMode", .nat (deltaCode d.deltaMode))]
  | .touch d =>
    modifierFields d.modifiers ++
      [("touches", .nat d.touches), ("changedTouches", .nat d.changedTouches),
        ("targetTouches", .nat d.targetTouches)]
  | .composition text => [("data", .string text)]
  | .form => formFields doc event.target
  | .transition d => motionFields "propertyName" d
  | .animation d => motionFields "animationName" d
  | .focus => []
  | .generic => []

/-- The record of an event. -/
def fields (doc : Document) (event : NativeEvent) : List (String × Json) :=
  ("type", .string event.name) :: categoryFields doc event

/-- The note on an event whose category has no rule. -/
def gap? (event : NativeEvent) : Option String :=
  match event.data with
  | .generic =>
    some ("no field mapping for '" ++ event.name ++ "' events; reporting generic fields only")
  | _ => none

end NativeEvent

end PageHost
