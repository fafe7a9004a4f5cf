import PageHost.Decimal.Layout
import PageHost.Edit.Error
/-!
# Attribute texts

The text that an attribute gets from a payload. Numbers are written without an
exponent, whole numbers without a point, and both zeros as `0`. A null payload
stands for the absence of the attribute and a handle has no text.
-/

namespace PageHost

/-- Numbers in attributes are written without an exponent. -/
def attributeLayout : Layout where
  positional := none
  keepsPoint := false
  zero _ := "0"
  infinite negative := some (if negative then "-inf" else "inf")
  nan := some "NaN"

namespace Payload

/-- The text of an attribute; none if the attribute is to be absent. -/
def attributeText : Payload → Except EditError (Option String)
  | .null => .ok none
  | .text value => .ok (some value)
  | .bool value => .ok (some (if value then "true" else "false"))
  | .number value => .ok (attributeLayout.text? value)
  | .handle _ => .error (.invalidPayload "handle")

end Payload

end PageHost
