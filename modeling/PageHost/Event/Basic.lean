import PageHost.Payload
/-!
# Native events

What the platform delivers at the root of the page: the name of an event, the
node where it happened and the data of its category. Client coordinates are
single-precision numbers, all other measures double-precision.
-/

namespace PageHost

/-- A key: the text that it types or its standard name. -/
inductive Key where
  | character (text : String)
  | named (name : String)
deriving Repr, DecidableEq

/-- Where on the keyboard a key is. -/
inductive KeyLocation where
  | standard
  | left
  | right
  | numpad
deriving Repr, DecidableEq

/-- The modifier keys that are reported. -/
structure Modifiers where
  altKey : Bool
  ctrlKey : Bool
  metaKey : Bool
  shiftKey : Bool
deriving Repr, DecidableEq

/-- A key press or release. -/
structure KeyboardData where
  key : Key
  /-- The standard name of the physical key. -/
  code : String
  location : KeyLocation
  isRepeat : Bool
  isComposing : Bool
  modifiers : Modifiers

/-- A button of a pointing device. -/
inductive MouseButton where
  | main
  | auxiliary
  | secondary
  | fourth
  | fifth
deriving Repr, DecidableEq

/-- A point with two coordinates. -/
structure Point where
  x : Float
  y : Float

/-- A position in single precision, widened again. -/
def Point.narrow (p : Point) : Point := ⟨p.x.toFloat32.toFloat, p.y.toFloat32.toFloat⟩

/-- Where a pointing device is and what is pressed. -/
structure MouseData where
  /-- In single precision. -/
  client : Point
  page : Point
  screen : Point
  button : MouseButton
  /-- The pressed buttons as bits. -/
  buttons : Nat
  modifiers : Modifiers

/-- A pointer: a mouse, a pen or a finger. -/
structure PointerData where
  mouse : MouseData
  pointerId : Int
  width : Float
  height : Float
  pressure : Float
  tangentialPressure : Float
  tiltX : Int
  tiltY : Int
  twist : Int
  pointerType : String
  isPrimary : Bool

/-- A mouse as a pointer. -/
def PointerData.ofMouse (mouse : MouseData) : PointerData :=
  ⟨mouse, 1, 1, 1, 0.5, 0, 0, 0, 0, "mouse", true⟩

/-- The unit of a scroll distance. -/
inductive DeltaMode where
  | pixel
  | line
  | page
deriving Repr, DecidableEq

/-- A turn of a wheel. -/
structure WheelData where
  mouse : MouseData
  deltaX : Float
  deltaY : Float
  deltaZ : Float
  deltaMode : DeltaMode

/-- The numbers of touch points. -/
structure TouchData where
  modifiers : Modifiers
  touches : Nat
  changedTouches : Nat
  targetTouches : Nat

/-- A step of a transition or an animation. -/
structure MotionData where
  /-- The property or the animation. -/
  name : String
  elapsedTime : Float
  pseudoElement : String

/-- The data of an event by category. -/
inductive EventData where
  | keyboard (data : KeyboardData)
  | mouse (data : MouseData)
  | pointer (data : PointerData)
  | wheel (data : WheelData)
  | touch (data : TouchData)
  | composition (text : String)
  /-- The values are read from the page when the event is reported. -/
  | form
  | transition (data : MotionData)
  | animation (data : MotionData)
  | focus
  | generic

/-- An event at a node. -/
structure NativeEvent where
  name : String
  target : Handle
  data : EventData

end PageHost
