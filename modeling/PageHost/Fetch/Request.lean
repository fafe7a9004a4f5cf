import PageHost.Json.Basic
/-!
# Requests

What a script asks to fetch: a URL with a method, headers and a body. On the
wire a request is an object whose members may all be missing, or the array of
their values from the front. Methods and header names are tokens; the value of a
header has no control characters except tabs.
-/

namespace PageHost.Fetch

/-- A request. -/
structure Request where
  url : String
  method : String
  headers : List (String × String)
  body : Option String
deriving Repr, DecidableEq

/-- The members that a request leaves out. -/
def Request.default : Request := ⟨"", "GET", [], none⟩

/-! ## Wire form -/

/-- A value that is read only if it is there. -/
def readOr? {α : Type} (read : Json → Option α) (default : α) : Option Json → Option α
  | none => some default
  | some value => read value

/-- A name and a value. -/
def header? : Json → Option (String × String)
  | .array [.string name, .string value] => some (name, value)
  | _ => none

/-- A text that may be null. -/
def body? : Json → Option (Option String)
  | .null => some none
  | .string text => some (some text)
  | _ => none

namespace Request

/-- The request with the given members, in order. -/
def ofParts? (url method headers body : Option Json) : Option Request := do
  let url ← readOr? Json.string? default.url url
  let method ← readOr? Json.string? default.method method
  let headers ← readOr? (fun value => value.array?.bind (List.mapM header?)) default.headers headers
  let body ← readOr? body? default.body body
  return ⟨url, method, headers, body⟩

/-- Reads the wire form. -/
def ofJson? : Json → Option Request
  | .object members => do
    let url ← Keyed.sole? members "url"
    let method ← Keyed.sole? members "method"
    let headers ← Keyed.sole? members "headers"
    let body ← Keyed.sole? members "body"
    ofParts? url method headers body
  | .array items =>
    if items.length ≤ 4 then ofParts? items[0]? items[1]? items[2]? items[3]? else none
  | _ => none

/-- The wire form, with all members. -/
def toJson (r : Request) : Json :=
  .object [("url", .string r.url), ("method", .string r.method),
    ("headers", .array (r.headers.map fun h => .array [.string h.1, .string h.2])),
    ("body", .ofOption .string r.body)]

end Request

/-! ## What may be sent -/

/-- Characters of a token. -/
def isTokenChar (c : Char) : Bool := c.isAlphanum || "!#$%&'*+-.^_\x60|~".toList.contains c

/-- Whether a text is a token. -/
def isToken (s : String) : Bool := !s.isEmpty && s.toList.all isTokenChar

/-- Whether a text can be a method. -/
def isMethod (s : String) : Bool := isToken s

/-- Whether a text can name a header: a token of less than 64 KiB. -/
def isHeaderName (s : String) : Bool := isToken s && decide (s.length < 65536)

/-- Whether a text can be the value of a header. -/
def isHeaderValue (s : String) : Bool :=
  s.toList.all fun c => c == '\t' || (0x20 ≤ c.toNat && c.toNat != 0x7F)

end PageHost.Fetch
