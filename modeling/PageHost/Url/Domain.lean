import PageHost.Text.Blank
import PageHost.Text.Utf8
import PageHost.Url.Domain.Label
import PageHost.Url.Domain.Punycode
/-!
# Domain names

The ASCII form of a domain name. Letters are in lower case, a label with other
characters than ASCII is written in ASCII after a sign, and none of the characters
that delimit other parts of a URL occurs. A label that has the sign already must
have come from such a label.
-/

namespace PageHost.Url

/-- ASCII characters that no domain name has. -/
def forbiddenInDomain (c : Char) : Bool :=
  c.toNat ≤ 0x20 || c.toNat == 0x7F || "%#/:<>?@[\\]^|".toList.contains c

/-- Whether a character is ASCII. -/
def isAscii (c : Char) : Bool := decide (c.toNat < 0x80)

namespace Domain

/-- The sign of a label that is written in ASCII. -/
def encodedSign : List Char := "xn--".toList

/-- The labels of a name. -/
def labels (name : List Char) : List (List Char) := Text.splitAll '.' name

/-- Whether a name is the same in ASCII but for the case of its letters. -/
def isPlain (name : List Char) : Bool :=
  name.all isAscii &&
    (labels (name.map Char.toLower)).all fun label => (Text.after? encodedSign label).isNone

/-- The characters of a prepared label, decoded if it has the sign. -/
def decoded? (label : List Char) : Option (List Nat) :=
  match Text.after? encodedSign label with
  | none => some (label.map Char.toNat)
  | some text => do
    let ns ← decodeLabel? text
    guard (isPrepared ns && ns.any fun n => decide (0x80 ≤ n))
    return ns

/-- A label in ASCII. -/
def asciiLabel (ns : List Nat) : List Char :=
  if ns.all (· < 0x80) then ns.map Char.ofNat else encodedSign ++ encodeLabel ns

/-- The ASCII form of a name that needs to be prepared. -/
def prepared? (name : List Char) : Option (List Char) := do
  let ns ← name.mapM fun c => prepare? c.toNat
  let decoded ← (labels ((composed ns.flatten).map Char.ofNat)).mapM decoded?
  guard (decoded.all isLabel)
  guard (!(decoded.any hasRightToLeft) || decoded.all hasOneDirection)
  return List.intercalate ['.'] (decoded.map asciiLabel)

end Domain

/-- The ASCII form of a domain name that is given as bytes. -/
def domainToAscii? (bytes : List UInt8) : Option (List Char) := do
  let name := (← Text.decodeUtf8? bytes).toList
  let ascii ← if Domain.isPlain name then some (name.map Char.toLower) else Domain.prepared? name
  guard (ascii.all fun c => !forbiddenInDomain c)
  return ascii

end PageHost.Url
